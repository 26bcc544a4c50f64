import Mathlib

set_option autoImplicit false

-- A program that asks its environment and goes on with the answer.
inductive Exchange (Call : Type) (Answer : Call → Type) (Result : Type) where
  | done (result : Result)
  | ask (call : Call) (next : Answer call → Exchange Call Answer Result)

namespace Exchange

variable {Call : Type} {Answer : Call → Type} {Result Final : Type}

def bind : Exchange Call Answer Result → (Result → Exchange Call Answer Final) → Exchange Call Answer Final
  | .done result, next => next result
  | .ask call rest, next => .ask call fun answer => (rest answer).bind next

def map (change : Result → Final) (program : Exchange Call Answer Result) : Exchange Call Answer Final :=
  program.bind fun result => .done (change result)

-- Against an environment that always gives the same answer to one call.
def run (environment : (call : Call) → Answer call) : Exchange Call Answer Result → Result
  | .done result => result
  | .ask call next => (next (environment call)).run environment

theorem run_bind (environment : (call : Call) → Answer call) (program : Exchange Call Answer Result)
    (next : Result → Exchange Call Answer Final) : (program.bind next).run environment = (next (program.run environment)).run environment := by
  induction program with
  | done result => rfl
  | ask call rest ih => exact ih (environment call)

theorem run_map (environment : (call : Call) → Answer call) (change : Result → Final) (program : Exchange Call Answer Result) :
    (program.map change).run environment = change (program.run environment) := run_bind environment program _

-- After the exchanges `past`, each call is allowed whatever the answers are, and so is the result.
def Keeps (allowed : List (Sigma Answer) → Call → Prop) (ends : List (Sigma Answer) → Result → Prop) :
    List (Sigma Answer) → Exchange Call Answer Result → Prop
  | past, .done result => ends past result
  | past, .ask call next => allowed past call ∧ ∀ answer, Keeps allowed ends (past ++ [⟨call, answer⟩]) (next answer)

section Rules

variable (allowed : List (Sigma Answer) → Call → Prop)

theorem keeps_bind (between : List (Sigma Answer) → Result → Prop) (ends : List (Sigma Answer) → Final → Prop)
    (program : Exchange Call Answer Result) (next : Result → Exchange Call Answer Final) (past : List (Sigma Answer))
    (first : Keeps allowed between past program)
    (later : ∀ past result, between past result → Keeps allowed ends past (next result)) : Keeps allowed ends past (program.bind next) := by
  induction program generalizing past with
  | done result => exact later past result first
  | ask call rest ih => exact ⟨first.1, fun answer => ih answer _ (first.2 answer)⟩

end Rules

-- Any number of programs side by side, with all that was asked and answered, oldest first.
structure Session (Input Call : Type) (Answer : Call → Type) (Result : Type) where
  running : List (Input × Exchange Call Answer Result)
  log : List (Nat × Sigma Answer)

section Sessions

variable {Input : Type} (program : Input → Exchange Call Answer Result)

def Session.new : Session Input Call Answer Result := ⟨[], []⟩

inductive SessionStep : Session Input Call Answer Result → Session Input Call Answer Result → Prop where
  | start (session : Session Input Call Answer Result) (input : Input) :
      SessionStep session { session with running := session.running ++ [(input, program input)] }
  | answer (session : Session Input Call Answer Result) (index : Nat) (input : Input) (call : Call)
      (next : Answer call → Exchange Call Answer Result) (answer : Answer call)
      (waits : session.running[index]? = some (input, .ask call next)) :
      SessionStep session ⟨session.running.set index (input, next answer), session.log ++ [(index, ⟨call, answer⟩)]⟩

def pastOf (index : Nat) (log : List (Nat × Sigma Answer)) : List (Sigma Answer) :=
  (log.filter fun entry => entry.1 = index).map Prod.snd

theorem past_of_append (index : Nat) (first second : List (Nat × Sigma Answer)) :
    pastOf index (first ++ second) = pastOf index first ++ pastOf index second := by
  rw [pastOf, List.filter_append, List.map_append]
  rfl

theorem past_of_own (index : Nat) (exchange : Sigma Answer) : pastOf index [(index, exchange)] = [exchange] := by
  simp [pastOf]

theorem past_of_other (index other : Nat) (exchange : Sigma Answer) (different : other ≠ index) :
    pastOf index [(other, exchange)] = [] := by
  simp [pastOf, different]

theorem past_of_unused (index : Nat) (log : List (Nat × Sigma Answer)) (below : ∀ entry ∈ log, entry.1 < index) :
    pastOf index log = [] := by
  rw [pastOf, List.filter_eq_nil_iff.mpr fun entry member => ?_, List.map_nil]
  simpa using (below entry member).ne

variable (allowed : Input → List (Sigma Answer) → Call → Prop) (ends : Input → List (Sigma Answer) → Result → Prop)

structure SessionInv (session : Session Input Call Answer Result) : Prop where
  programs : ∀ index input rest, session.running[index]? = some (input, rest) →
    Keeps (allowed input) (ends input) (pastOf index session.log) rest
  started : ∀ entry ∈ session.log, entry.1 < session.running.length
  calls : ∀ before index call answer, before ++ [(index, ⟨call, answer⟩)] <+: session.log →
    ∃ input rest, session.running[index]? = some (input, rest) ∧ allowed input (pastOf index before) call

theorem session_start (session : Session Input Call Answer Result) (input : Input)
    (kept : Keeps (allowed input) (ends input) [] (program input)) (inv : SessionInv allowed ends session) :
    SessionInv allowed ends { session with running := session.running ++ [(input, program input)] } := by
  constructor
  · intro index other rest found
    rcases Nat.lt_trichotomy index session.running.length with earlier | rfl | later
    · rw [List.getElem?_append_left earlier] at found
      exact inv.programs index other rest found
    · rw [List.getElem?_concat_length] at found
      obtain ⟨rfl, rfl⟩ := Prod.mk.inj (Option.some.inj found)
      rw [past_of_unused session.running.length session.log inv.started]
      exact kept
    · rw [List.getElem?_eq_none (by rw [List.length_append, List.length_singleton]; omega)] at found
      cases found
  · intro entry member
    rw [List.length_append]
    exact Nat.lt_add_right _ (inv.started entry member)
  · intro before index call answer logged
    obtain ⟨other, rest, found, fine⟩ := inv.calls before index call answer logged
    exact ⟨other, rest, List.getElem?_append_left (List.getElem?_eq_some_iff.mp found).1 ▸ found, fine⟩

theorem session_answer (session : Session Input Call Answer Result) (index : Nat) (input : Input) (call : Call)
    (next : Answer call → Exchange Call Answer Result) (answer : Answer call)
    (waits : session.running[index]? = some (input, .ask call next)) (inv : SessionInv allowed ends session) :
    SessionInv allowed ends ⟨session.running.set index (input, next answer), session.log ++ [(index, ⟨call, answer⟩)]⟩ := by
  obtain ⟨fine, goesOn⟩ := inv.programs index input _ waits
  obtain ⟨within, -⟩ := List.getElem?_eq_some_iff.mp waits
  have same : (session.running.set index (input, next answer))[index]? = some (input, next answer) := List.getElem?_set_self within
  constructor
  · intro other input' rest found
    rw [past_of_append]
    by_cases here : index = other
    · subst other
      rw [same] at found
      obtain ⟨rfl, rfl⟩ := Prod.mk.inj (Option.some.inj found)
      rw [past_of_own]
      exact goesOn answer
    · rw [List.getElem?_set_ne here] at found
      rw [past_of_other other index _ here, List.append_nil]
      exact inv.programs other input' rest found
  · intro entry member
    rw [List.length_set]
    cases List.mem_append.mp member with
    | inl earlier => exact inv.started entry earlier
    | inr last => rw [List.mem_singleton.mp last]; exact within
  · intro before other asked reply logged
    rcases List.prefix_concat_iff.mp logged with last | earlier
    · obtain ⟨rfl, entry⟩ := List.append_inj' last rfl
      obtain ⟨rfl, exchange⟩ := Prod.mk.inj (List.cons.inj entry).1
      obtain ⟨rfl, -⟩ := Sigma.mk.inj exchange
      exact ⟨input, next answer, same, fine⟩
    · obtain ⟨input', rest, found, permitted⟩ := inv.calls before other asked reply earlier
      by_cases here : index = other
      · subst other
        obtain rfl : input = input' := (Prod.mk.inj (Option.some.inj (waits.symm.trans found))).1
        exact ⟨input, next answer, same, permitted⟩
      · exact ⟨input', rest, (List.getElem?_set_ne here).trans found, permitted⟩

theorem session_invariant (kept : ∀ input, Keeps (allowed input) (ends input) [] (program input))
    (session : Session Input Call Answer Result) (reached : Relation.ReflTransGen (SessionStep program) .new session) :
    SessionInv allowed ends session := by
  induction reached with
  | refl =>
      refine ⟨fun index input rest found => ?_, fun entry member => absurd member List.not_mem_nil, fun before index call answer logged => ?_⟩
      · cases found
      · exact absurd (List.prefix_nil.mp logged) (List.append_ne_nil_of_right_ne_nil _ (List.cons_ne_nil _ _))
  | tail _ step ih =>
      cases step with
      | start input => exact session_start program allowed ends _ input (kept input) ih
      | answer index input call next answer waits => exact session_answer allowed ends _ index input call next answer waits ih

end Sessions

end Exchange
