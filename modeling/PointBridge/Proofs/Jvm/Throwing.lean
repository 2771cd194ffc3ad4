import PointBridge.Proofs.Jvm

/-!
# Throwing exceptions

Raising an exception asks whether one is pending, looks up the class and throws. What can go wrong
from the lookup on is listed, in the order in which it comes up, by `Jvm.faults`; the list is empty
exactly if throwing works (`Jvm.Throws`). `Jvm.raises_perform_raise` says what raising comes to on
every machine: an exception that is known to be pending is left alone; otherwise the new one is
raised where throwing works, and the first fault is told where it does not. Nothing is ever thrown
while an exception is pending.

Not being able to ask whether an exception is pending counts as no the first time, so that a pending
one may go unnoticed. It is a fault the second time, behind the lookup of the class, which is why
nothing is thrown by a machine that cannot be asked.
-/

namespace PointBridge

namespace Jvm

theorem perform_exceptionCheck (jvm : Jvm) : jvm.perform exceptionCheck =
    match jvm.unreachable? .exceptionCheck with
    | none => (.ok jvm.pending.isSome, jvm.noteCall .exceptionCheck)
    | some fault => (.error fault, jvm) := by
  unfold exceptionCheck
  rw [perform_bind, perform_invoke]
  cases jvm.unreachable? .exceptionCheck <;> simp [Except.map, noteCall]

/-! ## Calls that throw -/

/-- Another machine has further calls that reached it, and none of them throws while an exception is
pending. -/
def Guarded (jvm jvm' : Jvm) : Prop :=
  ∃ made : List Call, jvm'.calls = jvm.calls ++ made ∧
    ∀ c ∈ made, c.function = .throwNew → c.pending = false

namespace Guarded

variable {jvm jvm' jvm'' : Jvm}

theorem trans (h : jvm.Guarded jvm') (h' : jvm'.Guarded jvm'') : jvm.Guarded jvm'' := by
  obtain ⟨made, hmade, guarded⟩ := h
  obtain ⟨later, hlater, guarded'⟩ := h'
  exact ⟨made ++ later, by rw [hlater, hmade, List.append_assoc],
    List.forall_mem_append.2 ⟨guarded, guarded'⟩⟩

theorem of_calls_eq (h : jvm'.calls = jvm.calls) : jvm.Guarded jvm' := ⟨[], by simp [h], nofun⟩

theorem of_like (h : jvm.Like jvm') : jvm.Guarded jvm' := by
  obtain ⟨made, rfl, harmless⟩ := h
  exact ⟨made, rfl, fun c hc throws => absurd throws (harmless c hc)⟩

theorem noteCall {f : Function} (guarded : f = .throwNew → jvm.pending = none) :
    jvm.Guarded (jvm.noteCall f) := by
  refine ⟨_, rfl, List.forall_mem_singleton.2 fun throws => ?_⟩
  exact Option.isSome_eq_false_iff.2 (Option.isNone_iff_eq_none.2 (guarded throws))

end Guarded

/-! ## Faults -/

/-- What is told about faults: the first one, if there is one. -/
def told : List JniError → Except JniError Unit
  | [] => .ok ()
  | fault :: _ => .error fault

theorem eq_nil_of_told {faults : List JniError} (ok : told faults = .ok ()) : faults = [] := by
  cases faults with
  | nil => rfl
  | cons fault rest => cases ok

theorem told_append_of_error {first : List JniError} {fault : JniError}
    (error : told first = .error fault) (later : List JniError) :
    told (first ++ later) = .error fault ∧ first ++ later ≠ [] := by
  cases first with
  | nil => cases error
  | cons fault rest => exact ⟨error, List.cons_ne_nil _ _⟩

/-- Throwing works: all that it calls can be reached, the class is found, and no exception is
refused. -/
structure Throws (jvm : Jvm) : Prop where
  checks : jvm.Reaches .exceptionCheck
  finds : jvm.Reaches .findClass
  throws : jvm.Reaches .throwNew
  lookup : jvm.classLookup = .found
  accepts : jvm.throwCode = 0

section Faults

variable (jvm : Jvm)

/-- What goes wrong with looking up a class. Whether an exception is pending is asked behind it. -/
def lookupFaults : List JniError :=
  (jvm.unreachable? .findClass).toList ++ (jvm.unreachable? .exceptionCheck).toList ++
    match jvm.classLookup with
    | .found => []
    | .null => [.nullResult "FindClass result"]
    | .raises => [.exceptionPending]

/-- What goes wrong with throwing an exception of a class that was found. -/
def refusals : List JniError :=
  (jvm.unreachable? .throwNew).toList ++
    if jvm.throwCode = 0 then [] else [.throwRefused jvm.throwCode]

/-- What goes wrong with throwing an exception, in the order in which it comes up. -/
def faults : List JniError := jvm.lookupFaults ++ jvm.refusals

theorem lookupFaults_eq_nil_iff : jvm.lookupFaults = [] ↔
    jvm.Reaches .findClass ∧ jvm.Reaches .exceptionCheck ∧ jvm.classLookup = .found := by
  unfold lookupFaults
  cases jvm.classLookup <;> simp [unreachable?_eq_none_iff]

theorem refusals_eq_nil_iff : jvm.refusals = [] ↔ jvm.Reaches .throwNew ∧ jvm.throwCode = 0 := by
  unfold refusals
  split <;> simp [unreachable?_eq_none_iff, *]

theorem faults_eq_nil_iff : jvm.faults = [] ↔ jvm.Throws := by
  rw [faults, List.append_eq_nil_iff, lookupFaults_eq_nil_iff, refusals_eq_nil_iff]
  exact ⟨fun ⟨⟨finds, checks, lookup⟩, throws, accepts⟩ => ⟨checks, finds, throws, lookup, accepts⟩,
    fun h => ⟨⟨h.finds, h.checks, h.lookup⟩, h.throws, h.accepts⟩⟩

end Faults

/-! ## Looking up the class -/

/-- The exception that a failed class lookup raises. -/
def notFound (className : String) : JavaException := ⟨ExceptionClass.noClassDefFound, className⟩

section Lookup

variable (jvm : Jvm) (className : String)

/-- The exception that is pending after a class lookup: the one before, unless the lookup raises
one. -/
def pendingAfterLookup : Option JavaException :=
  if jvm.Reaches .findClass ∧ jvm.classLookup = .raises then some (notFound className)
  else jvm.pending

/-- The machine after it was asked to look up a class. -/
def lookedUp : Jvm :=
  if jvm.classLookup = .raises then
    { jvm.noteCall .findClass with pending := some (notFound className) }
  else jvm.noteCall .findClass

theorem unreachable?_lookedUp (f : Function) :
    (jvm.lookedUp className).unreachable? f = jvm.unreachable? f := by
  unfold lookedUp
  split <;> rfl

theorem refusals_lookedUp : (jvm.lookedUp className).refusals = jvm.refusals := by
  unfold lookedUp
  split <;> rfl

theorem pending_lookedUp (finds : jvm.Reaches .findClass) :
    (jvm.lookedUp className).pending = jvm.pendingAfterLookup className := by
  unfold lookedUp pendingAfterLookup
  by_cases raises : jvm.classLookup = .raises
  · rw [if_pos raises, if_pos ⟨finds, raises⟩]
  · rw [if_neg raises, if_neg fun h => raises h.2]
    rfl

theorem guarded_lookedUp : jvm.Guarded (jvm.lookedUp className) := by
  have noted : jvm.Guarded (jvm.noteCall .findClass) := .noteCall nofun
  unfold lookedUp
  split
  · exact noted.trans (.of_calls_eq rfl)
  · exact noted

/-- How a class lookup ends is found out by asking whether an exception is pending. -/
theorem perform_afterLookup (lookup : ClassLookup) : jvm.perform (do
      if ← exceptionCheck then throw .exceptionPending
      if lookup ≠ .found then throw (.nullResult "FindClass result")) =
    match jvm.unreachable? .exceptionCheck with
    | some fault => (.error fault, jvm)
    | none =>
      (if jvm.pending.isSome then .error .exceptionPending
        else if lookup = .found then .ok () else .error (.nullResult "FindClass result"),
        jvm.noteCall .exceptionCheck) := by
  rw [perform_bind, perform_exceptionCheck]
  cases jvm.unreachable? .exceptionCheck with
  | some fault => rfl
  | none =>
    cases jvm.pending with
    | some e => rfl
    | none => by_cases found : lookup = .found <;> simp [found]

theorem perform_findClass : jvm.perform (findClass className) =
    match jvm.unreachable? .findClass with
    | some fault => (.error fault, jvm)
    | none =>
      match jvm.unreachable? .exceptionCheck with
      | some fault => (.error fault, jvm.lookedUp className)
      | none =>
        (if (jvm.lookedUp className).pending.isSome then .error .exceptionPending
          else if jvm.classLookup = .found then .ok ()
          else .error (.nullResult "FindClass result"),
          (jvm.lookedUp className).noteCall .exceptionCheck) := by
  have hlookup : (jvm.noteCall .findClass).classLookup = jvm.classLookup := rfl
  unfold findClass
  rw [perform_bind, perform_invoke]
  cases jvm.unreachable? .findClass with
  | some fault => rfl
  | none =>
    have later := perform_afterLookup (jvm.lookedUp className) jvm.classLookup
    rw [unreachable?_lookedUp] at later
    simp only [perform_bind, perform_get, hlookup]
    rw [← later]
    unfold lookedUp notFound
    split <;> rfl

/-- What looking up a class comes to. -/
structure LooksUp (result : Except JniError Unit × Jvm) : Prop where
  outcome : result.1 = told jvm.lookupFaults
  pending : result.2.pending = jvm.pendingAfterLookup className
  refusals : result.2.refusals = jvm.refusals
  guarded : jvm.Guarded result.2

/-- A class is looked up where no exception is pending, unless one is that cannot be asked for. -/
theorem looksUp_findClass (idle : jvm.Reaches .exceptionCheck → jvm.pending = none) :
    jvm.LooksUp className (jvm.perform (findClass className)) := by
  rw [perform_findClass]
  cases find : jvm.unreachable? .findClass with
  | some fault =>
    refine ⟨by simp [lookupFaults, find, told], ?_, rfl, .of_calls_eq rfl⟩
    exact (if_neg fun h => by simp [← unreachable?_eq_none_iff, find] at h).symm
  | none =>
    have hpending := jvm.pending_lookedUp className ((jvm.unreachable?_eq_none_iff _).1 find)
    have hrefusals := jvm.refusals_lookedUp className
    have looked := jvm.guarded_lookedUp className
    cases check : jvm.unreachable? .exceptionCheck with
    | some fault =>
      exact ⟨by simp [lookupFaults, find, check, told], hpending, hrefusals, looked⟩
    | none =>
      refine ⟨?_, hpending, hrefusals, looked.trans (.noteCall nofun)⟩
      -- an exception that is pending by now is one that the lookup raised
      have idle := idle ((jvm.unreachable?_eq_none_iff _).1 check)
      cases lookup : jvm.classLookup <;>
        simp [lookupFaults, find, check, lookup, told, lookedUp, noteCall, idle]

end Lookup

/-! ## Throwing -/

section Throwing

variable {jvm : Jvm} (e : JavaException)

theorem perform_throwNew (jvm : Jvm) : jvm.perform (throwNew e) =
    match jvm.unreachable? .throwNew with
    | some fault => (.error fault, jvm)
    | none =>
      if jvm.throwCode = 0 then (.ok (), { jvm.noteCall .throwNew with pending := some e })
      else (.error (.throwRefused jvm.throwCode), jvm.noteCall .throwNew) := by
  have hcode : (jvm.noteCall .throwNew).throwCode = jvm.throwCode := rfl
  unfold throwNew
  rw [perform_bind, perform_invoke]
  cases jvm.unreachable? .throwNew with
  | some fault => rfl
  | none =>
    simp only [perform_bind, perform_get, hcode]
    split <;> rfl

theorem throwNew_of_idle (idle : jvm.pending = none) :
    (jvm.perform (throwNew e)).1 = told jvm.refusals ∧
      (jvm.perform (throwNew e)).2.pending = (if jvm.refusals = [] then some e else none) ∧
      jvm.Guarded (jvm.perform (throwNew e)).2 := by
  rw [perform_throwNew]
  cases throws : jvm.unreachable? .throwNew with
  | some fault => exact ⟨by simp [refusals, throws, told], by simp [refusals, throws, idle],
      .of_calls_eq rfl⟩
  | none =>
    have noted : jvm.Guarded (jvm.noteCall .throwNew) := .noteCall fun _ => idle
    by_cases accepts : jvm.throwCode = 0
    · simp only [accepts, if_true]
      exact ⟨by simp [refusals, throws, accepts, told], by simp [refusals, throws, accepts],
        noted.trans (.of_calls_eq rfl)⟩
    · simp only [accepts, if_false]
      exact ⟨by simp [refusals, throws, accepts, told],
        by simp [refusals, throws, accepts, noteCall, idle], noted⟩

/-- What an attempt to throw an exception comes to: the first fault is told, and the exception is
pending if there is none. -/
structure Attempts (jvm : Jvm) (result : Except JniError Unit × Jvm) : Prop where
  outcome : result.1 = told jvm.faults
  pending : result.2.pending =
    if jvm.faults = [] then some e else jvm.pendingAfterLookup e.className
  guarded : jvm.Guarded result.2

namespace Attempts

variable {e} {result : Except JniError Unit × Jvm}

theorem of_like {jvm' : Jvm} (like : jvm.Like jvm') (h : jvm'.Attempts e result) :
    jvm.Attempts e result := by
  have guarded := Guarded.of_like like
  obtain ⟨made, rfl, -⟩ := like
  exact ⟨h.outcome, h.pending, guarded.trans h.guarded⟩

theorem of_throws (h : jvm.Attempts e result) (throws : jvm.Throws) :
    result.1 = .ok () ∧ result.2.pending = some e := by
  have flawless := jvm.faults_eq_nil_iff.2 throws
  refine ⟨?_, h.pending.trans (if_pos flawless)⟩
  rw [h.outcome, flawless, told]

theorem of_not_throws (h : jvm.Attempts e result) (broken : ¬ jvm.Throws) :
    ∃ fault, jvm.faults.head? = some fault ∧ result.1 = .error fault ∧
      result.2.pending = jvm.pendingAfterLookup e.className := by
  rw [← jvm.faults_eq_nil_iff] at broken
  obtain ⟨fault, rest, hfaults⟩ := List.exists_cons_of_ne_nil broken
  refine ⟨fault, by rw [hfaults, List.head?_cons], ?_, h.pending.trans (if_neg broken)⟩
  rw [h.outcome, hfaults, told]

end Attempts

theorem attempts_throw (idle : jvm.Reaches .exceptionCheck → jvm.pending = none) :
    jvm.Attempts e (jvm.perform (findClass e.className >>= fun _ => throwNew e)) := by
  have looks := jvm.looksUp_findClass e.className idle
  rw [perform_bind]
  rcases hlook : jvm.perform (findClass e.className) with ⟨fault | ⟨⟩, jvm'⟩ <;> rw [hlook] at looks
  · obtain ⟨told, some_fault⟩ := told_append_of_error looks.outcome.symm jvm.refusals
    refine ⟨told.symm, ?_, looks.guarded⟩
    exact looks.pending.trans (if_neg some_fault).symm
  · have no_fault := eq_nil_of_told looks.outcome.symm
    obtain ⟨-, checks, found⟩ := jvm.lookupFaults_eq_nil_iff.1 no_fault
    have kept : jvm.pendingAfterLookup e.className = none := by
      rw [pendingAfterLookup, if_neg (by simp [found]), idle checks]
    obtain ⟨outcome, pending, guarded⟩ := throwNew_of_idle e (looks.pending.trans kept)
    have refused : jvm.faults = jvm'.refusals := by
      rw [looks.refusals, faults, no_fault, List.nil_append]
    refine ⟨?_, ?_, looks.guarded.trans guarded⟩
    · rw [outcome, refused]
    · rw [pending, kept, refused]

/-- An exception that is known to be pending is left alone, and nothing else is called. -/
theorem perform_raise_of_pending (pending : jvm.pending.isSome)
    (checks : jvm.Reaches .exceptionCheck) :
    jvm.perform (raise e) = (.ok (), jvm.noteCall .exceptionCheck) := by
  unfold raise
  rw [perform_bind, perform_tryCatch, perform_exceptionCheck,
    (jvm.unreachable?_eq_none_iff _).2 checks]
  simp [pending]

/-- **Where no exception is known to be pending, throwing one is attempted.** -/
theorem attempts_raise (unknown : ¬ (jvm.pending.isSome ∧ jvm.Reaches .exceptionCheck)) :
    jvm.Attempts e (jvm.perform (raise e)) := by
  have idle (checks : jvm.Reaches .exceptionCheck) : jvm.pending = none :=
    Option.not_isSome_iff_eq_none.1 fun pending => unknown ⟨pending, checks⟩
  unfold raise
  rw [perform_bind, perform_tryCatch, perform_exceptionCheck]
  cases check : jvm.unreachable? .exceptionCheck with
  | some fault => exact attempts_throw e idle
  | none =>
    have unnoticed := idle ((jvm.unreachable?_eq_none_iff _).1 check)
    have like : jvm.Like (jvm.noteCall .exceptionCheck) := .noteCall jvm nofun
    simp only [unnoticed]
    exact .of_like like (attempts_throw e fun _ => unnoticed)

end Throwing

/-! ## Machines that work -/

/-- The machine does all that it is asked to do. -/
structure Works (jvm : Jvm) : Prop where
  access : jvm.access = .full
  complete : ∀ f : Function, f.name ∉ jvm.missing
  lookup : jvm.classLookup = .found
  accepts : jvm.throwCode = 0

theorem Works.throws {jvm : Jvm} (w : jvm.Works) : jvm.Throws :=
  ⟨⟨w.access, w.complete _⟩, ⟨w.access, w.complete _⟩, ⟨w.access, w.complete _⟩, w.lookup,
    w.accepts⟩

/-- **Where nothing is pending and throwing works, the exception is raised.** -/
theorem Throws.perform_raise {jvm : Jvm} (t : jvm.Throws) (idle : jvm.pending = none)
    (e : JavaException) :
    (jvm.perform (raise e)).1 = .ok () ∧ (jvm.perform (raise e)).2.pending = some e :=
  (attempts_raise e fun h => by simp [idle] at h).of_throws t

namespace Like

variable {jvm jvm' : Jvm}

theorem works (h : jvm.Like jvm') (w : jvm.Works) : jvm'.Works := by
  obtain ⟨made, rfl, -⟩ := h
  exact ⟨w.access, w.complete, w.lookup, w.accepts⟩

theorem throws (h : jvm.Like jvm') (t : jvm.Throws) : jvm'.Throws := by
  obtain ⟨made, rfl, -⟩ := h
  exact ⟨t.checks, t.finds, t.throws, t.lookup, t.accepts⟩

end Like

end Jvm

end PointBridge
