import RunMarkers.Document.Call
import RunMarkers.Proofs.Document.Built

/-!
# Calls that fail

A failed call leaves no trace. In a run of calls, each of which leaves its builder as it was when it
fails, the failed ones can be struck out: the others answer what they answered, and the builder in
the end is the same (`callAll_kept`). The calls on a builder are of this kind, since they are the
steps tried on it (`ArenaBuilder.call_eq_attempt`). When a call fails is told by the calls before it
that did not: by the bytes that they took, and by the nodes that they left open.
-/

namespace RunMarkers

section Calls

variable {α ε β ι : Type}

/-- The calls of a run that did not fail, by their answers. -/
def kept (ss : List ι) (answers : List (Except ε α)) : List ι :=
  ((ss.zip answers).filter fun p => p.2.isOk).map Prod.fst

theorem kept_cons_ok (s : ι) (ss : List ι) (a : α) (answers : List (Except ε α)) :
    kept (s :: ss) (.ok a :: answers) = s :: kept ss answers := rfl

theorem kept_cons_error (s : ι) (ss : List ι) (e : ε) (answers : List (Except ε α)) :
    kept (s :: ss) (.error e :: answers) = kept ss answers := rfl

variable (call : β → ι → Except ε α × β)

theorem callAll_cons (b : β) (s : ι) (ss : List ι) :
    callAll call b (s :: ss) =
      ((call b s).1 :: (callAll call (call b s).2 ss).1, (callAll call (call b s).2 ss).2) := rfl

theorem length_callAll (b : β) (ss : List ι) : (callAll call b ss).1.length = ss.length := by
  induction ss generalizing b with
  | nil => rfl
  | cons s ss ih => rw [callAll_cons, List.length_cons, ih, List.length_cons]

theorem callAll_append (b : β) (ss ts : List ι) :
    callAll call b (ss ++ ts) =
      ((callAll call b ss).1 ++ (callAll call (callAll call b ss).2 ts).1,
        (callAll call (callAll call b ss).2 ts).2) := by
  induction ss generalizing b with
  | nil => rfl
  | cons s ss ih => rw [List.cons_append, callAll_cons, callAll_cons, ih, List.cons_append]

/-- The answer of the call in the middle of a run, and the answers before it. -/
theorem answers_callAll_append_cons (b : β) (ss : List ι) (s : ι) (ts : List ι) :
    (callAll call b (ss ++ s :: ts)).1[ss.length]? = some (call (callAll call b ss).2 s).1 ∧
      (callAll call b (ss ++ s :: ts)).1.take ss.length = (callAll call b ss).1 := by
  rw [callAll_append, ← length_callAll call b ss]
  constructor
  · rw [List.getElem?_append_right (Nat.le_refl _), Nat.sub_self, callAll_cons,
      List.getElem?_cons_zero]
  · exact List.take_left

variable {call}

/-- If a failed call leaves what it is made on as it was, then without the failed calls of a run the
others answer what they answered, and leave what they left. -/
theorem callAll_kept (hcall : ∀ b s e, (call b s).1 = .error e → (call b s).2 = b) (b : β)
    (ss : List ι) :
    callAll call b (kept ss (callAll call b ss).1) =
      ((callAll call b ss).1.filter Except.isOk, (callAll call b ss).2) := by
  induction ss generalizing b with
  | nil => rfl
  | cons s ss ih =>
      rw [callAll_cons]
      cases hs : (call b s).1 with
      | error e =>
          rw [kept_cons_error, hcall b s e hs, List.filter_cons_of_neg Bool.false_ne_true]
          exact ih b
      | ok a =>
          rw [kept_cons_ok, callAll_cons, ih, hs, List.filter_cons_of_pos rfl]

end Calls

/-- What is read first in a call is the builder that it is made on. -/
theorem Call.run_get_bind {α : Type} (f : ArenaBuilder → Call α) (b : ArenaBuilder) :
    (get >>= f).run.run b = (f b).run.run b := rfl

namespace BuildStep

def isEnter : BuildStep → Bool
  | enter _ => true
  | token _ _ | leave => false

/-- The number of nodes that steps leave open, if none of them fails. -/
def leftOpen (ss : List BuildStep) : Nat := ss.countP isEnter - ss.count leave

/-- A step fails at a cursor, with some nodes open besides the root. -/
def Fails (source : Source) (cursor opened : Nat) : BuildStep → Prop
  | enter _ => False
  | token _ length => source.size < cursor + length ∨ source.isBoundary (cursor + length) = false
  | leave => opened = 0

end BuildStep

namespace ArenaBuilder

open BuildStep

/-- The call of a step is the step tried: it checks before it changes anything. -/
theorem call_eq_attempt (b : ArenaBuilder) (s : BuildStep) : b.call s = b.attempt s := by
  cases s with
  | enter kind => rfl
  | token kind length =>
      rw [attempt, step, token, call, Call.ofStep, Call.token, map_bind, Call.run_get_bind]
      by_cases hsize : b.source.size < b.cursor + length
      · rw [if_pos hsize, if_pos hsize]
        rfl
      · rw [if_neg hsize, if_neg hsize]
        by_cases hboundary : b.source.isBoundary (b.cursor + length) = true
        · rw [if_neg (by simp [hboundary]), if_pos hboundary]
          rfl
        · rw [if_pos (by simp [hboundary]), if_neg hboundary]
          rfl
  | leave =>
      rw [attempt, step, leave, call, Call.ofStep, Call.leave, bind_assoc, Call.run_get_bind]
      cases hopened : b.opened with
      | nil => rfl
      | cons id outer =>
          cases outer with
          | nil => rfl
          | cons p outer =>
              rw [if_neg (by simp)]
              simp only [bind_assoc, Call.run_get_bind, hopened]
              rfl

theorem calls_cons (b : ArenaBuilder) (s : BuildStep) (ss : List BuildStep) :
    b.calls (s :: ss) =
      ((b.call s).1 :: ((b.call s).2.calls ss).1, ((b.call s).2.calls ss).2) := rfl

theorem calls_eq_attempts (b : ArenaBuilder) (ss : List BuildStep) :
    b.calls ss = b.attempts ss := by
  induction ss generalizing b with
  | nil => rfl
  | cons s ss ih =>
      rw [calls_cons, ih, call_eq_attempt, attempts]

theorem call_error {b : ArenaBuilder} {s : BuildStep} {e : BuildError}
    (h : (b.call s).1 = .error e) : (b.call s).2 = b := by
  rw [call_eq_attempt, attempt] at h ⊢
  split at h
  next => cases h
  next => rfl

theorem source_push (b : ArenaBuilder) (kind : NodeKind) (span : Span) :
    (b.push kind span).2.source = b.source := by
  rw [push]
  split <;> rfl

theorem fileKind_push (b : ArenaBuilder) (kind : NodeKind) (span : Span) :
    (b.push kind span).2.fileKind = b.fileKind := by
  rw [push]
  split <;> rfl

theorem opened_push (b : ArenaBuilder) (kind : NodeKind) (span : Span) :
    (b.push kind span).2.opened = b.opened := by
  rw [push]
  split <;> rfl

theorem cursor_push (b : ArenaBuilder) (kind : NodeKind) (span : Span) :
    (b.push kind span).2.cursor = b.cursor := by
  rw [push]
  split <;> rfl

/-- What a step that does not fail makes of a builder: it takes its bytes, and opens or closes a
node, but not the root. -/
structure Advances (b : ArenaBuilder) (s : BuildStep) (after : ArenaBuilder) : Prop where
  source : after.source = b.source
  cursor : after.cursor = b.cursor + s.length
  opened_ne_nil : after.opened ≠ []
  length_opened : after.opened.length + [s].count .leave = b.opened.length + [s].countP isEnter

theorem advances_enter {b : ArenaBuilder} (kind : NodeKind) :
    b.Advances (.enter kind) (b.enter kind).2 where
  source := source_push b kind _
  cursor := cursor_push b kind _
  opened_ne_nil := List.cons_ne_nil _ _
  length_opened := congrArg (fun ids => ids.length + 1) (opened_push b kind _)

theorem advances_token {b : ArenaBuilder} (hopened : b.opened ≠ []) (kind : NodeKind)
    (length : Nat) :
    b.Advances (.token kind length)
      { (b.push kind ⟨b.cursor, b.cursor + length⟩).2 with cursor := b.cursor + length } where
  source := source_push b kind _
  cursor := rfl
  opened_ne_nil := (opened_push b kind _).symm ▸ hopened
  length_opened := congrArg List.length (opened_push b kind _)

/-- With the root open, a call fails as its step does and changes nothing, or it advances. -/
theorem call_cases {b : ArenaBuilder} (hopened : b.opened ≠ []) (s : BuildStep) :
    (s.Fails b.source b.cursor (b.opened.length - 1) ∧ ∃ e, b.call s = (.error e, b)) ∨
      (¬ s.Fails b.source b.cursor (b.opened.length - 1) ∧
        ∃ begun after, b.call s = (.ok begun, after) ∧ b.Advances s after) := by
  rw [call_eq_attempt, attempt]
  cases s with
  | enter kind => exact .inr ⟨id, _, _, rfl, advances_enter kind⟩
  | token kind length =>
      rw [step, token]
      by_cases hsize : b.source.size < b.cursor + length
      · rw [if_pos hsize]
        exact .inl ⟨.inl hsize, _, rfl⟩
      · rw [if_neg hsize]
        cases hboundary : b.source.isBoundary (b.cursor + length) with
        | false => exact .inl ⟨.inr hboundary, _, rfl⟩
        | true =>
            refine .inr ⟨?_, _, _, rfl, advances_token hopened kind length⟩
            rintro (hpast | hinside)
            · exact hsize hpast
            · exact Bool.false_ne_true (hinside.symm.trans hboundary)
  | leave =>
      rw [step, leave]
      cases hids : b.opened with
      | nil => exact absurd hids hopened
      | cons id outer =>
          cases outer with
          | nil => exact .inl ⟨rfl, _, rfl⟩
          | cons p outer =>
              refine .inr ⟨Nat.succ_ne_zero _, _, _, rfl, rfl, rfl, List.cons_ne_nil _ _, ?_⟩
              rw [hids]
              rfl

/-- The history of a run: its bytes and its open nodes are those of the calls that did not fail. -/
theorem calls_history {b : ArenaBuilder} (hopened : b.opened ≠ []) (ss : List BuildStep) :
    (b.calls ss).2.source = b.source ∧
      (b.calls ss).2.cursor = b.cursor + bytesTaken ss (b.calls ss).1 ∧
      (b.calls ss).2.opened ≠ [] ∧
      (b.calls ss).2.opened.length + (kept ss (b.calls ss).1).count .leave =
        b.opened.length + (kept ss (b.calls ss).1).countP isEnter := by
  induction ss generalizing b with
  | nil => exact ⟨rfl, rfl, hopened, rfl⟩
  | cons s ss ih =>
      rw [calls_cons]
      rcases call_cases hopened s with ⟨-, e, hcall⟩ | ⟨-, begun, after, hcall, hadvances⟩
      · rw [hcall, kept_cons_error]
        exact ih hopened
      · obtain ⟨hsource, hcursor, hne, hlength⟩ := ih hadvances.opened_ne_nil
        rw [hcall, kept_cons_ok]
        refine ⟨hsource.trans hadvances.source, ?_, hne, ?_⟩
        · rw [bytesTaken, ← Nat.add_assoc, ← hadvances.cursor]
          exact hcursor
        · have hstep := hadvances.length_opened
          rw [List.count_singleton, List.countP_singleton] at hstep
          rw [List.count_cons, List.countP_cons]
          simp only
          omega

/-- Whatever calls are made: a call fails just when it asks for bytes that are past the end of the
source or end inside a character, or for closing when only the root is open, as the calls before it
that did not fail have it. Without the failed calls the others give the same answers, and what is
finished is the same. -/
theorem calls_kept (source : Source) (path : Option Path) (fileKind : FileKind)
    (ss : List BuildStep) :
    let b := start source path fileKind
    let answers := (b.calls ss).1
    (∀ before s after, ss = before ++ s :: after → ∃ answer,
      answers[before.length]? = some answer ∧
        (answer.isOk = false ↔ s.Fails source (bytesTaken before (answers.take before.length))
          (leftOpen (kept before (answers.take before.length))))) ∧
      (b.calls (kept ss answers)).1 = answers.filter Except.isOk ∧
      (b.calls (kept ss answers)).2.finish = (b.calls ss).2.finish := by
  intro b answers
  have hkept : b.calls (kept ss answers) = (answers.filter Except.isOk, (b.calls ss).2) :=
    callAll_kept (fun _ _ _ => call_error) b ss
  refine ⟨?_, congrArg Prod.fst hkept, congrArg (fun run => run.2.finish) hkept⟩
  intro before s after hss
  have hroot : b.opened ≠ [] := List.cons_ne_nil _ _
  obtain ⟨hsource, hcursor, hopened, hlength⟩ := calls_history hroot before
  obtain ⟨hanswer, hbefore⟩ := answers_callAll_append_cons call b before s after
  rw [← hss] at hanswer hbefore
  change answers.take before.length = (b.calls before).1 at hbefore
  refine ⟨_, hanswer, ?_⟩
  -- the cursor and the open nodes at the call are those of the history
  have hleft : (b.calls before).2.opened.length - 1 =
      leftOpen (kept before (b.calls before).1) := by
    have hone : b.opened.length = 1 := rfl
    rw [leftOpen]
    omega
  have hstart : (b.calls before).2.cursor = bytesTaken before (b.calls before).1 :=
    hcursor.trans (Nat.zero_add _)
  rw [hbefore, ← hleft, ← hstart, ← show (b.calls before).2.source = source from hsource]
  rcases call_cases hopened s with ⟨hfails, e, hcall⟩ | ⟨hfails, begun, after, hcall, -⟩
  · rw [← calls, hcall]
    exact iff_of_true rfl hfails
  · rw [← calls, hcall]
    exact iff_of_false Bool.false_ne_true.symm hfails

end ArenaBuilder

end RunMarkers
