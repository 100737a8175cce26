/-
Outlines against the tokens they are built from. Going through an outline from node to node, each
before what is declared in it, meets just the nodes that the tokens declare, in their order, however
the braces stand: what is open and what is closed already always walk through the same nodes
together. And the braces match just if their depth never falls below zero and ends there: as long as
it has not, it is the number of frames that have a brace.
-/
import Mathlib.Data.List.Induction
import PluginForge.Compiler.Outline.Query
import PluginForge.Compiler.Scripted

namespace PluginForge

namespace OutlineNode

/-! ## Walks -/

mutual

/-- A node and the nodes in it, each before what is declared in it and without its members. -/
def walk : OutlineNode → List OutlineNode
  | .directive target text isGlobal alias? => [.directive target text isGlobal alias?]
  | .scope name fileScoped members => .scope name fileScoped [] :: walkAll members
  | .typeDecl kind name modifiers bases members =>
    .typeDecl kind name modifiers bases [] :: walkAll members
  | .property name value => [.property name value]
  | .other => [.other]

def walkAll : List OutlineNode → List OutlineNode
  | [] => []
  | n :: rest => n.walk ++ walkAll rest

end

theorem walkAll_concat (ns : List OutlineNode) (n : OutlineNode) :
    walkAll (ns ++ [n]) = walkAll ns ++ n.walk := by
  induction ns with
  | nil => simp [walkAll]
  | cons m rest ih => simp only [List.cons_append, walkAll, ih, List.append_assoc]

end OutlineNode

namespace Outline

open OutlineNode (walk walkAll walkAll_concat)

/-- The node that a token declares, without members. -/
def Token.node? : Token → Option OutlineNode
  | .directive text target isGlobal alias? =>
    some (.directive (.ofList target) (.ofList text) isGlobal (alias?.map .ofList))
  | .scope name fileScoped => some (.scope (.ofList name) fileScoped [])
  | .typeHead mods kind name bases =>
    some (.typeDecl (.ofList kind) (.ofList name) (mods.map .ofList) (bases.map .ofList) [])
  | .nameBody text => some (.property "Name" (.expressionBody (.literal (.ofList text))))
  | .nameGetter text => some (.property "Name" (.getter (some (.literal (.ofList text)))))
  | .openBrace => none
  | .closeBrace => none

/-- The nodes in a frame so far: the one it will declare, and those declared in it. -/
def Frame.walk : Frame → List OutlineNode
  | .scope name fileScoped members => .scope name fileScoped [] :: walkAll members.reverse
  | .typeDecl kind name modifiers bases members =>
    .typeDecl kind name modifiers bases [] :: walkAll members.reverse
  | .block => []

namespace Builder

/-- All nodes so far: those in what is closed, then those in the frames from the outermost on. -/
def walk (b : Builder) : List OutlineNode :=
  walkAll b.top.reverse ++ b.frames.reverse.flatMap Frame.walk

theorem walk_declare (b : Builder) (n : OutlineNode) : (b.declare n).walk = b.walk ++ n.walk := by
  obtain ⟨frames, top, balanced⟩ := b
  simp only [declare, walk]
  induction frames with
  | nil => simp [declareIn, walkAll_concat]
  | cons f rest ih =>
    cases f with
    | scope => simp [declareIn, Frame.walk, walkAll_concat]
    | typeDecl => simp [declareIn, Frame.walk, walkAll_concat]
    | block => simpa [declareIn, Frame.walk] using ih

theorem walk_push (b : Builder) (f : Frame) : (b.push f).walk = b.walk ++ f.walk := by
  simp [push, walk]

/-- A frame that is closed is walked through where it was open. -/
theorem walk_close (b : Builder) (f : Frame) : (b.close f).walk = (b.push f).walk := by
  rw [walk_push]
  cases f with
  | scope => simp only [close, Frame.node?, walk_declare, OutlineNode.walk, Frame.walk]
  | typeDecl => simp only [close, Frame.node?, walk_declare, OutlineNode.walk, Frame.walk]
  | block => simp [close, Frame.node?, Frame.walk]

theorem walk_closeBrace (b : Builder) (size : Nat) : (b.closeBrace size).walk = b.walk := by
  induction size generalizing b with
  | zero => rfl
  | succ size ih =>
    obtain ⟨frames, top, balanced⟩ := b
    cases frames with
    | nil => rfl
    | cons f rest =>
      have closed := walk_close ⟨rest, top, balanced⟩ f
      simp only [closeBrace]
      split
      · exact closed
      · rw [ih]
        exact closed

theorem walk_finish (b : Builder) (size : Nat) : (b.finish size).walk = b.walk := by
  induction size generalizing b with
  | zero => rfl
  | succ size ih =>
    obtain ⟨frames, top, balanced⟩ := b
    cases frames with
    | nil => rfl
    | cons f rest =>
      simp only [finish]
      rw [ih, walk_close]
      rfl

/-- Each token adds the node that it declares to the end of the walk. -/
theorem walk_step (b : Builder) (t : Token) : (b.step t).walk = b.walk ++ t.node?.toList := by
  cases t with
  | directive => simp [step, walk_declare, Token.node?, OutlineNode.walk]
  | scope => simp [step, walk_push, Token.node?, Frame.walk, walkAll]
  | typeHead => simp [step, walk_push, Token.node?, Frame.walk, walkAll]
  | nameBody => simp [step, walk_declare, Token.node?, OutlineNode.walk]
  | nameGetter => simp [step, walk_push, walk_declare, Token.node?, OutlineNode.walk, Frame.walk]
  | openBrace => simp [step, walk_push, Token.node?, Frame.walk]
  | closeBrace => simp [step, walk_closeBrace, Token.node?]

theorem walk_foldl_step (b : Builder) (ts : List Token) :
    (ts.foldl step b).walk = b.walk ++ ts.filterMap Token.node? := by
  induction ts generalizing b with
  | nil => simp
  | cons t rest ih =>
    rw [List.foldl_cons, ih, walk_step, List.append_assoc]
    cases h : t.node? <;> simp [h]

/-! ## Frames with braces -/

/-- The number of frames that a brace closes. -/
def braces (b : Builder) : Nat :=
  b.frames.countP Frame.braced

theorem braced_declareIn (n : OutlineNode) (top : List OutlineNode) (frames : List Frame) :
    (declareIn n top frames).1.map Frame.braced = frames.map Frame.braced := by
  induction frames with
  | nil => rfl
  | cons f rest ih =>
    cases f with
    | scope => rfl
    | typeDecl => rfl
    | block => exact congrArg (true :: ·) ih

theorem braced_close (b : Builder) (f : Frame) :
    (b.close f).frames.map Frame.braced = b.frames.map Frame.braced := by
  unfold close
  split
  · exact braced_declareIn _ _ _
  · rfl

theorem balanced_close (b : Builder) (f : Frame) : (b.close f).balanced = b.balanced := by
  unfold close
  split <;> rfl

theorem length_frames_close (b : Builder) (f : Frame) :
    (b.close f).frames.length = b.frames.length := by
  simpa using congrArg List.length (braced_close b f)

theorem braces_eq_count (b : Builder) : b.braces = (b.frames.map Frame.braced).count true := by
  rw [braces, List.count, List.countP_map]
  exact List.countP_congr fun f _ => by simp

theorem braces_declare (b : Builder) (n : OutlineNode) : (b.declare n).braces = b.braces := by
  simp only [braces_eq_count, declare, braced_declareIn]

theorem braces_close (b : Builder) (f : Frame) : (b.close f).braces = b.braces := by
  simp only [braces_eq_count, braced_close]

theorem braces_push (b : Builder) (f : Frame) :
    (b.push f).braces = b.braces + if f.braced then 1 else 0 :=
  List.countP_cons

/-- A closing brace closes one frame that has a brace, unless there is none. -/
theorem closeBrace_spec (b : Builder) {size : Nat} (enough : b.frames.length < size) :
    (b.closeBrace size).balanced = b.balanced ∧ (b.closeBrace size).braces + 1 = b.braces ∨
      b.braces = 0 ∧ (b.closeBrace size).balanced = false := by
  induction size generalizing b with
  | zero => exact absurd enough (Nat.not_lt_zero _)
  | succ size ih =>
    obtain ⟨frames, top, balanced⟩ := b
    cases frames with
    | nil => exact .inr ⟨rfl, rfl⟩
    | cons f rest =>
      have counted := braces_push ⟨rest, top, balanced⟩ f
      have left := braces_close ⟨rest, top, balanced⟩ f
      have shorter : ((close ⟨rest, top, balanced⟩ f).frames).length < size := by
        rw [length_frames_close]
        exact Nat.lt_of_succ_lt_succ enough
      cases hf : f.braced with
      | true =>
        simp only [hf, if_true, push] at counted
        refine .inl ?_
        simp only [closeBrace, hf, if_true, balanced_close, left, counted, and_self]
      | false =>
        simp only [hf, push] at counted
        have rest_closed := ih _ shorter
        rw [balanced_close, left] at rest_closed
        simpa [closeBrace, hf, counted] using rest_closed

/-- At the end everything is closed, and nothing that has a brace may have been left open. -/
theorem finish_spec (b : Builder) {size : Nat} (enough : b.frames.length ≤ size) :
    (b.finish size).frames = [] ∧
      ((b.finish size).balanced = true ↔ b.balanced = true ∧ b.braces = 0) := by
  induction size generalizing b with
  | zero =>
    have none : b.frames = [] := List.length_eq_zero_iff.1 (Nat.le_zero.1 enough)
    simp [finish, none, braces]
  | succ size ih =>
    obtain ⟨frames, top, balanced⟩ := b
    cases frames with
    | nil => simp [finish, braces]
    | cons f rest =>
      have counted := braces_push ⟨rest, top, balanced⟩ f
      have shorter : ((close ⟨rest, top, balanced && !f.braced⟩ f).frames).length ≤ size := by
        rw [length_frames_close]
        exact Nat.le_of_succ_le_succ enough
      obtain ⟨closed, matched⟩ := ih _ shorter
      refine ⟨closed, ?_⟩
      simp only [finish]
      rw [matched, balanced_close, braces_close]
      simp only [push] at counted
      rw [counted]
      cases f.braced <;> simp [braces]

end Builder

/-! ## Depth -/

/-- How far a token takes the depth of braces up. -/
def Token.rise : Token → Int
  | .scope _ fileScoped => if fileScoped then 0 else 1
  | .typeHead .. => 1
  | .nameGetter _ => 2
  | .openBrace => 1
  | .closeBrace => -1
  | .directive .. => 0
  | .nameBody _ => 0

/-- The depth of braces behind some tokens. -/
def depth (ts : List Token) : Int :=
  ts.foldl (fun d t => d + t.rise) 0

/-- The braces of some tokens match. -/
structure Matched (ts : List Token) : Prop where
  above : ∀ front, front <+: ts → 0 ≤ depth front
  closed : depth ts = 0

theorem depth_concat (ts : List Token) (t : Token) : depth (ts ++ [t]) = depth ts + t.rise := by
  simp [depth]

namespace Builder

/-- A token changes the number of frames with a brace as it changes the depth, unless that would
fall below zero. -/
theorem step_spec (b : Builder) (t : Token) :
    0 ≤ b.braces + t.rise ∧ (b.step t).balanced = b.balanced ∧
        ((b.step t).braces : Int) = b.braces + t.rise ∨
      b.braces + t.rise < 0 ∧ (b.step t).balanced = false := by
  have nonneg : (0 : Int) ≤ b.braces := Int.natCast_nonneg _
  cases t with
  | directive =>
    refine .inl ⟨by simp [Token.rise], rfl, ?_⟩
    simp [step, braces_declare, Token.rise]
  | scope name fileScoped =>
    refine .inl ⟨?_, rfl, ?_⟩
    · simp only [Token.rise]
      split <;> omega
    · simp only [step, braces_push, Frame.braced, Token.rise]
      cases fileScoped <;> simp
  | typeHead =>
    refine .inl ⟨by simp only [Token.rise]; omega, rfl, ?_⟩
    simp [step, braces_push, Frame.braced, Token.rise]
  | nameBody =>
    refine .inl ⟨by simp [Token.rise], rfl, ?_⟩
    simp [step, braces_declare, Token.rise]
  | nameGetter =>
    refine .inl ⟨by simp only [Token.rise]; omega, rfl, ?_⟩
    simp [step, braces_push, braces_declare, Frame.braced, Token.rise, Int.add_assoc]
  | openBrace =>
    refine .inl ⟨by simp only [Token.rise]; omega, rfl, ?_⟩
    simp [step, braces_push, Frame.braced, Token.rise]
  | closeBrace =>
    have enough : b.frames.length < b.frames.length + 1 := Nat.lt_succ_self _
    rcases b.closeBrace_spec enough with ⟨same, fewer⟩ | ⟨none, unmatched⟩
    · refine .inl ⟨?_, same, ?_⟩ <;> simp only [step, Token.rise] <;> omega
    · exact .inr ⟨by simp only [none, Token.rise]; omega, unmatched⟩

/-- As long as the depth has not fallen below zero, every closing brace has closed a frame, and the
depth is the number of frames with a brace. -/
theorem foldl_step_spec (ts : List Token) :
    ((ts.foldl step start).balanced = true ↔ ∀ front, front <+: ts → 0 ≤ depth front) ∧
      ((ts.foldl step start).balanced = true →
        ((ts.foldl step start).braces : Int) = depth ts) := by
  induction ts using List.reverseRecOn with
  | nil => simp [start, depth, braces]
  | append_singleton ts t ih =>
    obtain ⟨above, counted⟩ := ih
    have fronts : (∀ front, front <+: ts ++ [t] → 0 ≤ depth front) ↔
        (∀ front, front <+: ts → 0 ≤ depth front) ∧ 0 ≤ depth (ts ++ [t]) := by
      simp only [List.prefix_concat_iff, or_imp, forall_and, forall_eq, and_comm]
    rw [List.foldl_append, List.foldl_cons, List.foldl_nil, fronts, ← above, depth_concat]
    rcases (ts.foldl step start).step_spec t with ⟨nonneg, same, risen⟩ | ⟨below, unmatched⟩
    · rw [same, risen]
      refine ⟨⟨fun matched => ⟨matched, ?_⟩, And.left⟩, fun matched => ?_⟩
      · rwa [← counted matched]
      · rw [counted matched]
    · rw [unmatched]
      refine ⟨⟨nofun, fun ⟨matched, nonneg⟩ => ?_⟩, nofun⟩
      rw [← counted matched] at nonneg
      omega

end Builder

/-! ## Outlines -/

/-- The outline that some tokens are put together to, and whether their braces match. -/
def ofTokens (ts : List Token) : List OutlineNode × Bool :=
  let b := ts.foldl Builder.step .start
  let b := b.finish b.frames.length
  (b.top.reverse, b.balanced)

theorem ofText_eq (text : String) : ofText text = ofTokens (scan text.toList) := rfl

/-- An outline walks through the nodes that the tokens declare. -/
theorem walkAll_ofTokens (ts : List Token) :
    walkAll (ofTokens ts).1 = ts.filterMap Token.node? := by
  have built := Builder.walk_foldl_step .start ts
  unfold ofTokens
  generalize ts.foldl Builder.step .start = b at built ⊢
  have finished := b.walk_finish b.frames.length
  rw [built, Builder.walk, (b.finish_spec (Nat.le_refl _)).1] at finished
  simpa [Builder.walk, Builder.start, walkAll] using finished

theorem balanced_ofTokens_iff (ts : List Token) : (ofTokens ts).2 = true ↔ Matched ts := by
  obtain ⟨above, counted⟩ := Builder.foldl_step_spec ts
  unfold ofTokens
  generalize ts.foldl Builder.step .start = b at above counted ⊢
  rw [(b.finish_spec (Nat.le_refl _)).2]
  constructor
  · rintro ⟨matched, none⟩
    have counted := counted matched
    exact ⟨above.1 matched, by omega⟩
  · rintro ⟨never, closed⟩
    have matched := above.2 never
    have counted := counted matched
    exact ⟨matched, by omega⟩

theorem outline_parse (source : Path) (text : String) :
    (parse source text).outline = (ofTokens (scan text.toList)).1 := by
  rw [parse, ofText_eq]

theorem errorCount_parse (source : Path) (text : String) :
    (parse source text).errorCount = if (ofTokens (scan text.toList)).2 = true then 0 else 1 := by
  rw [parse, ofText_eq, SyntaxTree.errorCount]
  obtain ⟨outline, balanced⟩ := ofTokens (scan text.toList)
  cases balanced <;> rfl

/-- Whatever the tokens are, each declaration among them is walked through once in the outline, in
their order and whether or not the braces match. A source is parsed into the outline of its tokens;
their braces match just if no error is reported, and otherwise one is. So it is for the service that
has no answer to a parse call set in advance. -/
theorem parse_walk (source : Path) (text : String) :
    (∀ ts, walkAll (ofTokens ts).1 = ts.filterMap Token.node?) ∧
    (parse source text).outline = (ofTokens (scan text.toList)).1 ∧
    ((parse source text).errorCount = 0 ↔ Matched (scan text.toList)) ∧
    ((parse source text).errorCount = 1 ↔ ¬ Matched (scan text.toList)) ∧
    ∀ emit script, Scripted.parse ⟨[], emit, script⟩ ⟨source, text⟩ =
      .answer (parse source text) := by
  refine ⟨walkAll_ofTokens, outline_parse source text, ?_, ?_, fun _ _ => rfl⟩
  · rw [errorCount_parse, ← balanced_ofTokens_iff]
    simp
  · rw [errorCount_parse, ← balanced_ofTokens_iff]
    simp

end Outline
end PluginForge
