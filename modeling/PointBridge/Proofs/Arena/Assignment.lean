import PointBridge.Proofs.Arena.Taken

/-!
# What the point of a handle was set to

A command that does not retire the point of a handle leaves it with the coordinates that it gives
the point, if it does, and with those from before otherwise (`Consistent.find?_perform_of_spares`).
So after any commands that do not retire it a point has the coordinates that it was given last, in
whatever order and by whichever commands (`Consistent.find?_performAll_of_last`).
-/

namespace PointBridge

namespace Arena

variable {a : Arena} {h : Handle} {p : Point} {c : Command} {cs : List Command}

/-! ## Assignments -/

namespace Command

/-- The first coordinate that a command gives the point of a handle. -/
def newX? (h : Handle) : Command → Option Int32
  | .set k p => if k = h then some p.x else none
  | .setX k x => if k = h then some x else none
  | _ => none

/-- The second coordinate that a command gives the point of a handle. -/
def newY? (h : Handle) : Command → Option Int32
  | .set k p => if k = h then some p.y else none
  | .setY k y => if k = h then some y else none
  | _ => none

/-- The point of a handle after a command that does not retire it. -/
def assign (h : Handle) (p : Point) (c : Command) : Point :=
  ⟨(c.newX? h).getD p.x, (c.newY? h).getD p.y⟩

/-- A command does not retire the point of a handle. -/
structure Spares (h : Handle) (c : Command) : Prop where
  ne_release : c ≠ .release h
  ne_clear : c ≠ .clear

instance (h : Handle) (c : Command) : Decidable (c.Spares h) :=
  decidable_of_iff (c ≠ .release h ∧ c ≠ .clear) ⟨fun e => ⟨e.1, e.2⟩, fun s => ⟨s.1, s.2⟩⟩

end Command

open Command (Spares)

/-- The first coordinate that commands give the point of a handle last. -/
def lastX? (h : Handle) (cs : List Command) : Option Int32 :=
  (cs.filterMap (·.newX? h)).getLast?

/-- The second coordinate that commands give the point of a handle last. -/
def lastY? (h : Handle) (cs : List Command) : Option Int32 :=
  (cs.filterMap (·.newY? h)).getLast?

/-! ## One command -/

theorem Consistent.find?_perform_of_spares (ha : a.Consistent) (hp : a.find? h = some p)
    (spares : c.Spares h) : (a.perform c).arena.find? h = some (c.assign h p) := by
  have live : (a.find? h).isSome := Option.isSome_of_eq_some hp
  -- a command on another handle, or on none, is seen by the frame lemma
  have other (hc : c ≠ .allocate) (ht : c.target? ≠ some h) (same : c.assign h p = p) :
      (a.perform c).arena.find? h = some (c.assign h p) := by
    rw [find?_perform_of_target_ne hc spares.ne_clear ht, hp, same]
  -- a command that sets coordinates sets those of this handle, or of another one
  have setting {k : Handle} (hc : c ≠ .allocate) (ht : c.target? = some k)
      (hperf : a.perform c = a.access k fun p => ⟨.done, a.put k (c.assign k p), []⟩)
      (elsewhere : k ≠ h → c.assign h p = p) :
      (a.perform c).arena.find? h = some (c.assign h p) := by
    by_cases hk : k = h
    · subst hk
      rw [hperf, access_of_some hp, find?_put live, if_pos rfl]
    · exact other hc (fun e => hk (Option.some.inj (ht.symm.trans e))) (elsewhere hk)
  cases c with
  | allocate =>
    cases room : a.isFull with
    | true => rw [perform_allocate_of_full room]; exact hp
    | false =>
      rw [perform_allocate_of_room room, ha.find?_allocate room, if_neg]
      · exact hp
      · rintro rfl
        rw [ha.find?_allocate_handle room] at hp
        cases hp
  | clear => exact absurd rfl spares.ne_clear
  | release k =>
    refine other nofun (fun e => spares.ne_release ?_) rfl
    rw [Option.some.inj e]
  | set k q =>
    refine setting nofun rfl ?_ fun hk => ?_
    · simp [perform_set, Command.assign, Command.newX?, Command.newY?]
    · simp [Command.assign, Command.newX?, Command.newY?, hk]
  | setX k x =>
    refine setting nofun rfl ?_ fun hk => ?_
    · simp [perform_setX, Command.assign, Command.newX?, Command.newY?]
    · simp [Command.assign, Command.newX?, Command.newY?, hk]
  | setY k y =>
    refine setting nofun rfl ?_ fun hk => ?_
    · simp [perform_setY, Command.assign, Command.newX?, Command.newY?]
    · simp [Command.assign, Command.newX?, Command.newY?, hk]
  | get | getX | getY | distance | contains | size | isEmpty => exact other nofun nofun rfl

/-! ## Many commands -/

theorem foldl_assign (h : Handle) (cs : List Command) (p : Point) :
    cs.foldl (Command.assign h) p = ⟨(lastX? h cs).getD p.x, (lastY? h cs).getD p.y⟩ := by
  induction cs generalizing p with
  | nil => rfl
  | cons c rest ih =>
    rw [List.foldl_cons, ih]
    unfold lastX? lastY? Command.assign
    cases hx : c.newX? h <;> cases hy : c.newY? h <;>
      simp [hx, hy, List.getLast?_cons]

theorem Consistent.find?_performAll_of_spares (ha : a.Consistent) (hp : a.find? h = some p)
    (spares : ∀ c ∈ cs, c.Spares h) :
    (a.performAll cs).find? h = some (cs.foldl (Command.assign h) p) := by
  induction cs generalizing a p with
  | nil => exact hp
  | cons c rest ih =>
    obtain ⟨first, later⟩ := List.forall_mem_cons.1 spares
    exact ih (ha.perform c) (ha.find?_perform_of_spares hp first) later

/-- **A live point has the coordinates that it was given last.** -/
theorem Consistent.find?_performAll_of_last (ha : a.Consistent) (live : (a.find? h).isSome)
    (spares : ∀ c ∈ cs, c.Spares h) (hx : lastX? h cs = some p.x) (hy : lastY? h cs = some p.y) :
    (a.performAll cs).find? h = some p := by
  obtain ⟨q, hq⟩ := Option.isSome_iff_exists.1 live
  rw [ha.find?_performAll_of_spares hq spares, foldl_assign, hx, hy]
  rfl

/-- Commands give the point of a handle its coordinates: behind some of them it is live, and the
others do not retire it and give it these coordinates last. -/
inductive Assigns (a : Arena) (h : Handle) (p : Point) : List Command → Prop
  | behind {before after : List Command} (live : (a.performAll before).contains h = true)
      (spares : ∀ c ∈ after, c.Spares h) (hx : lastX? h after = some p.x)
      (hy : lastY? h after = some p.y) : Assigns a h p (before ++ after)

theorem Assigns.find?_performAll (assigned : a.Assigns h p cs) (ha : a.Consistent) :
    (a.performAll cs).find? h = some p := by
  obtain ⟨live, spares, hx, hy⟩ := assigned
  rw [performAll_append]
  exact (ha.performAll _).find?_performAll_of_last live spares hx hy

/-- The distance of two points is that of the coordinates that they were given. -/
theorem Assigns.distance_performAll {k : Handle} {q : Point} (first : a.Assigns h p cs)
    (second : a.Assigns k q cs) (ha : a.Consistent) :
    (a.performAll cs).distance h k = .ok (p.distance q) := by
  unfold distance get
  rw [first.find?_performAll ha, second.find?_performAll ha]
  rfl

end Arena

end PointBridge
