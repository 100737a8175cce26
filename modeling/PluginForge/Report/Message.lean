/-
The display form of compiler messages: `clean` takes the noise of assembly identities out of a
message, and `toChinese` puts known English phrases into Chinese. Both are for display only.
-/
import PluginForge.Text

namespace PluginForge.Message

open Chars

/-! ## Cleaning -/

/-- A stretch that starts with `label` and goes on with at least one character up to the next comma
or quote. -/
def attribute? (label : List Char) (s : List Char) : Option (Nat × List Char) :=
  (after? label s).bind fun r =>
    let value := r.takeWhile fun c => c ≠ ',' && c ≠ '\''
    if value.isEmpty then none else some (label.length + value.length, [])

/-- Drops the culture and the public key token that assembly names carry. -/
def cleanChars (s : List Char) : List Char :=
  let s := replaceBy (attribute? ", Culture=".toList) s
  let s := replaceBy (attribute? ", PublicKeyToken=".toList) s
  trim s

def clean (message : String) : String :=
  .ofList (cleanChars message.toList)

/-! ## In Chinese -/

/-- A stretch between two quotes, put into lenticular brackets. -/
def quoted? (s : List Char) : Option (Nat × List Char) :=
  match s with
  | '\'' :: r =>
    match cut? '\'' r with
    | some (inner, _) => some (inner.length + 2, '【' :: inner ++ ['】'])
    | none => none
  | _ => none

/-- The complaint that no constructor takes some number of arguments. -/
def arity? (s : List Char) : Option (Nat × List Char) := do
  let start := "does not contain a constructor that takes ".toList
  let stop := " arguments".toList
  let r ← after? start s
  let count := r.takeWhile isDigit
  if count.isEmpty || ! stop.isPrefixOf (r.dropWhile isDigit) then none
  else some (start.length + count.length + stop.length,
    "不包含接受".toList ++ count ++ "个参数的构造函数".toList)

/-- The questions that end some messages; they are put into Chinese before all else. -/
def suffixes : List (String × String) := [
  ("(are you missing a using directive or an assembly reference?)",
    "（是否缺少 using 指令或程序集引用？）"),
  ("(are you missing an assembly reference?)", "（是否缺少程序集引用？）"),
  ("(are you missing a using directive?)", "（是否缺少 using 指令？）")]

/-- The phrases of compiler messages and what they become. -/
def phrases : List (String × String) := [
  ("because", "因为"),
  ("Version=", "版本号"),
  ("Operator", "操作符"),
  ("The name", "该名称"),
  ("The type", "该类型"),
  ("could be found", "被找到"),
  ("does not exist", "不存在"),
  ("in the namespace", "这个命名空间"),
  ("in the current context", "当前上下文"),
  ("could not be found", "找不到"),
  ("The type or namespace name", "该类型或命名空间名称"),
  ("cannot be applied to operands of type", "不能应用于类型为的操作数"),
  ("does not contain a definition for", "不包含定义"),
  ("and no accessible extension method", "且没有可访问的扩展方法"),
  ("accepting a first argument of type", "接受类型为的第一个参数"),
  ("This type has been forwarded to assembly", "此类型已转发到程序集"),
  ("Consider adding a reference to that assembly", "请考虑添加对该程序集的引用"),
  ("You must add a reference to assembly", "必须添加对程序集的引用"),
  ("is defined in an assembly that is not referenced", "在未引用的程序集中定义"),
  ("is a method, which is not valid in the given context", "是一种方法，这在给定的上下文中无效"),
  ("is inaccessible due to its protection level", "由于其保护级别，无法访问"),
  ("is an ambiguous reference between", "以下两者之间存在模糊引用"),
  ("does not implement interface member", "无法实现接口成员"),
  ("A global using directive must precede all non-global using directives.",
    "不要把 bin 或 obj 放进源码文件夹"),
  ("must be a non-abstract type with a public parameterless constructor",
    "必须是非抽象类型且具有公共无参数构造函数"),
  ("cannot be used as a constant", "不能用作常量"),
  ("is not supported by the language", "语言不支持"),
  ("Anonymous methods cannot be converted to expression trees", "匿名方法不能转换为表达式树"),
  ("The call is ambiguous between the following methods or properties",
    "以下方法或属性之间的调用不明确"),
  ("The best overloaded method match for", "最佳重载方法匹配"),
  ("has some invalid arguments", "有一些无效参数"),
  ("No overload for method", "方法没有重载"),
  ("cannot convert from", "无法转换自"),
  ("An object reference is required for the non-static field, method, or property",
    "非静态字段、方法或属性需要对象引用"),
  ("Missing compiler required member", "缺少编译器所需的成员"),
  ("The feature", "该功能"),
  ("is not available in C#", "在 C# 中不可用"),
  ("Please use language version", "请使用语言版本"),
  ("or greater", "或更高版本"),
  ("The left-hand side of an assignment must be a variable, property or indexer",
    "赋值操作的左侧必须是变量、属性或索引器"),
  ("The using directive for", "using 指令"),
  ("appeared previously in this namespace", "在此命名空间中已出现过"),
  ("The namespace", "命名空间"),
  ("already contains a definition for", "已包含定义"),
  ("The modifier", "修饰符"),
  ("is not valid for this item", "对此项无效"),
  ("Member names cannot be the same as their enclosing type", "成员名不能与其封闭类型相同"),
  ("A static class cannot contain non-static members", "静态类不能包含非静态成员"),
  ("Cannot create an instance of the static class", "无法创建静态类的实例"),
  ("Use of unassigned local variable", "使用了未赋值的局部变量"),
  ("Cannot assign to", "无法分配给"),
  ("because it is a", "因为它是一个"),
  ("foreach statement cannot operate on variables of type",
    "foreach 语句不能对该类型的变量进行操作"),
  ("does not contain a public instance or extension definition for", "不包含公共实例或扩展定义"),
  ("Pointers and fixed size buffers may only be used in an unsafe context",
    "指针和固定大小缓冲区只能在 unsafe 上下文中使用")]

/-- The phrases with longer ones first, so that a phrase wins over the ones inside it. -/
def phrasesByLength : List (String × String) :=
  phrases.mergeSort fun p q => q.1.length ≤ p.1.length

def substitute (table : List (String × String)) (s : List Char) : List Char :=
  table.foldl (fun s p => replace p.1.toList p.2.toList s) s

/-- The message in Chinese, as far as its phrases are known. -/
def toChinese (message : String) : String :=
  let s := replaceBy quoted? (cleanChars message.toList)
  let s := replaceBy arity? (substitute suffixes s)
  .ofList (trim (substitute phrasesByLength s))

end PluginForge.Message
