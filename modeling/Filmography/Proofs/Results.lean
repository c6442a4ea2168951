import Mathlib.Data.List.Forall2

/-!
# Results and errors

Facts about computations that have a result or an error: how the result of a whole comes from those
of its steps, and how a list is read member by member. They say nothing about what is computed.

* `exists_of_bind_eq_ok`: the result of a step after another;
* `Agree`: two computations with the same result, if any;
* `forall₂_of_mapM_eq_ok`, `mapM_eq_error_iff`: what reading a list comes to.
-/

namespace Filmography

variable {ε ε' α β : Type}

/-! ### Steps -/

/-- A step that follows another has a result only if that one has. -/
theorem exists_of_bind_eq_ok {x : Except ε α} {f : α → Except ε β} {b : β} (h : x >>= f = .ok b) :
    ∃ a, x = .ok a ∧ f a = .ok b := by
  rcases x with e | a
  · cases h
  · exact ⟨a, rfl, h⟩

/-- What maps to a result is a result. -/
theorem exists_of_map_eq_ok {f : α → β} {x : Except ε α} {b : β} (h : f <$> x = .ok b) :
    ∃ a, x = .ok a ∧ f a = b := by
  rcases x with e | a
  · cases h
  · cases h
    exact ⟨a, rfl, rfl⟩

/-- Mapping results keeps errors. -/
theorem map_eq_error_iff {f : α → β} {x : Except ε α} {e : ε} :
    f <$> x = .error e ↔ x = .error e := by
  rcases x with e' | a
  · constructor
    · rintro ⟨⟩
      rfl
    · rintro ⟨⟩
      rfl
  · constructor
    · rintro ⟨⟩
    · rintro ⟨⟩

theorem eq_ok_of_mapError {f : ε → ε'} {x : Except ε α} {a : α} (h : x.mapError f = .ok a) :
    x = .ok a := by
  rcases x with e | a'
  · cases h
  · cases h
    rfl

/-! ### The same result -/

/-- Two computations have the same result, if they have any. Their errors may differ. -/
def Agree (x : Except ε α) (y : Except ε' α) : Prop :=
  ∀ a, x = .ok a ↔ y = .ok a

namespace Agree

theorem refl (x : Except ε α) : Agree x x :=
  fun _ => Iff.rfl

theorem symm {x : Except ε α} {y : Except ε' α} (h : Agree x y) : Agree y x :=
  fun a => (h a).symm

theorem trans {ε'' : Type} {x : Except ε α} {y : Except ε' α} {z : Except ε'' α} (h : Agree x y)
    (h' : Agree y z) : Agree x z :=
  fun a => (h a).trans (h' a)

theorem of_error {x : Except ε α} {y : Except ε' α} (hx : ∀ a, x ≠ .ok a) (hy : ∀ a, y ≠ .ok a) :
    Agree x y :=
  fun a => iff_of_false (hx a) (hy a)

theorem map {x : Except ε α} {y : Except ε' α} (h : Agree x y) (f : α → β) :
    Agree (f <$> x) (f <$> y) := by
  intro b
  constructor
  · intro hb
    obtain ⟨a, ha, rfl⟩ := exists_of_map_eq_ok hb
    rw [(h a).mp ha]
    rfl
  · intro hb
    obtain ⟨a, ha, rfl⟩ := exists_of_map_eq_ok hb
    rw [(h a).mpr ha]
    rfl

theorem mapError {x y : Except ε α} (h : Agree x y) (f : ε → ε') :
    Agree (x.mapError f) (y.mapError f) := by
  intro a
  constructor
  · intro ha
    rw [(h a).mp (eq_ok_of_mapError ha)]
    rfl
  · intro ha
    rw [(h a).mpr (eq_ok_of_mapError ha)]
    rfl

theorem bind {x y : Except ε α} (h : Agree x y) (f : α → Except ε β) :
    Agree (x >>= f) (y >>= f) := by
  intro b
  constructor
  · intro hb
    obtain ⟨a, ha, hfa⟩ := exists_of_bind_eq_ok hb
    rw [(h a).mp ha]
    exact hfa
  · intro hb
    obtain ⟨a, ha, hfa⟩ := exists_of_bind_eq_ok hb
    rw [(h a).mpr ha]
    exact hfa

/-- Lists that differ in one member are read alike if this one is. -/
theorem mapM_append_cons {f : α → Except ε β} {a b : α} (h : Agree (f a) (f b)) (as cs : List α) :
    Agree ((as ++ a :: cs).mapM f) ((as ++ b :: cs).mapM f) := by
  have hsplit : ∀ c, (as ++ c :: cs).mapM f =
      as.mapM f >>= fun bs => f c >>= fun d => (fun ds => bs ++ d :: ds) <$> cs.mapM f := by
    intro c
    rw [List.mapM_append, List.mapM_cons]
    rcases as.mapM f with e | bs
    · rfl
    · rcases f c with e | d
      · rfl
      · rcases cs.mapM f with e | ds
        · rfl
        · rfl
  rw [hsplit, hsplit]
  rcases as.mapM f with e | bs
  · exact refl _
  · exact h.bind _

end Agree

/-! ### Lists -/

/-- If every member of a list can be read, the list can, member by member. -/
theorem mapM_eq_ok_of_forall {f : α → Except ε β} {R : α → β → Prop} {as : List α}
    (h : ∀ a ∈ as, ∃ b, f a = .ok b ∧ R a b) : ∃ bs, as.mapM f = .ok bs ∧ List.Forall₂ R as bs := by
  induction as with
  | nil => exact ⟨[], rfl, .nil⟩
  | cons a as ih =>
    obtain ⟨b, hb, hab⟩ := h a (List.mem_cons_self ..)
    obtain ⟨bs, hbs, habs⟩ := ih fun a' ha' => h a' (List.mem_cons_of_mem _ ha')
    refine ⟨b :: bs, ?_, .cons hab habs⟩
    rw [List.mapM_cons, hb, hbs]
    rfl

/-- What a list is read as is read from it member by member. -/
theorem forall₂_of_mapM_eq_ok {f : α → Except ε β} {R : α → β → Prop} {as : List α} {bs : List β}
    (hR : ∀ a ∈ as, ∀ b, f a = .ok b → R a b) (h : as.mapM f = .ok bs) : List.Forall₂ R as bs := by
  induction as generalizing bs with
  | nil =>
    cases h
    exact .nil
  | cons a as ih =>
    rw [List.mapM_cons] at h
    obtain ⟨b, hb, h⟩ := exists_of_bind_eq_ok h
    obtain ⟨bs', hbs, h⟩ := exists_of_bind_eq_ok h
    cases h
    obtain ⟨ha, has⟩ := List.forall_mem_cons.mp hR
    exact .cons (ha b hb) (ih has hbs)

/-- If a list can be read, every member of it can. -/
theorem forall_of_mapM_eq_ok {f : α → Except ε β} {as : List α} {bs : List β}
    (h : as.mapM f = .ok bs) : ∀ a ∈ as, ∃ b, f a = .ok b := by
  induction as generalizing bs with
  | nil => exact List.forall_mem_nil _
  | cons a as ih =>
    rw [List.mapM_cons] at h
    obtain ⟨b, hb, h⟩ := exists_of_bind_eq_ok h
    obtain ⟨bs', hbs, -⟩ := exists_of_bind_eq_ok h
    exact List.forall_mem_cons.mpr ⟨⟨b, hb⟩, ih hbs⟩

/-- Where everything is read, what is read comes from what there is. -/
theorem exists_of_mem_mapM {f : α → Except ε β} {as : List α} {bs : List β}
    (h : as.mapM f = .ok bs) {b : β} (hb : b ∈ bs) : ∃ a ∈ as, f a = .ok b := by
  have hall : List.Forall₂ (fun a b => a ∈ as ∧ f a = .ok b) as bs :=
    forall₂_of_mapM_eq_ok (fun a ha b hab => ⟨ha, hab⟩) h
  clear h
  obtain ⟨n, hn, rfl⟩ := List.mem_iff_getElem.mp hb
  have hlength := hall.length_eq
  have hget := hall.get (i := n) (by omega) hn
  exact ⟨_, hget.1, hget.2⟩

/-- There is only one first member that is not as those before it. -/
theorem eq_of_append_cons_eq {P : α → Prop} {as bs cs ds : List α} {a b : α}
    (h : as ++ a :: cs = bs ++ b :: ds) (has : ∀ x ∈ as, P x) (hbs : ∀ x ∈ bs, P x) (ha : ¬P a)
    (hb : ¬P b) : b = a := by
  induction as generalizing bs with
  | nil =>
    rcases bs with _ | ⟨x, bs⟩
    · cases h
      rfl
    · cases h
      exact absurd (hbs a (List.mem_cons_self ..)) ha
  | cons x as ih =>
    rcases bs with _ | ⟨y, bs⟩
    · cases h
      exact absurd (has b (List.mem_cons_self ..)) hb
    · obtain ⟨-, h⟩ := List.cons_eq_cons.mp h
      exact ih h (fun z hz => has z (List.mem_cons_of_mem x hz)) fun z hz =>
        hbs z (List.mem_cons_of_mem y hz)

/-- If a list cannot be read member by member, there is a first member that cannot. -/
theorem mapM_eq_error_iff {f : α → Except ε β} {as : List α} {e : ε} :
    as.mapM f = .error e ↔
      ∃ before a after bs, as = before ++ a :: after ∧ before.mapM f = .ok bs ∧ f a = .error e := by
  constructor
  · intro h
    induction as with
    | nil => cases h
    | cons a as ih =>
      rw [List.mapM_cons] at h
      rcases ha : f a with e' | b
      · rw [ha] at h
        cases h
        exact ⟨[], a, as, [], rfl, rfl, ha⟩
      · rcases has : as.mapM f with e' | bs
        · rw [ha, has] at h
          cases h
          obtain ⟨before, a', after, bs, rfl, hbefore, ha'⟩ := ih has
          refine ⟨a :: before, a', after, b :: bs, rfl, ?_, ha'⟩
          rw [List.mapM_cons, ha, hbefore]
          rfl
        · rw [ha, has] at h
          cases h
  · rintro ⟨before, a, after, bs, rfl, hbefore, ha⟩
    rw [List.mapM_append, hbefore, List.mapM_cons, ha]
    rfl

/-- A list whose members are all read without giving up is read so, too. -/
theorem run_mapM_eq_some {f : α → ExceptT ε Option β} {g : α → Except ε β} {as : List α}
    (h : ∀ a ∈ as, (f a).run = some (g a)) : (as.mapM f).run = some (as.mapM g) := by
  induction as with
  | nil => rfl
  | cons a as ih =>
    obtain ⟨ha, has⟩ := List.forall_mem_cons.mp h
    rw [List.mapM_cons, List.mapM_cons, ExceptT.run_bind, ha]
    rcases g a with e | b
    · rfl
    · show (as.mapM f >>= fun bs => pure (b :: bs)).run = _
      rw [ExceptT.run_bind, ih has]
      rcases as.mapM g with e | bs
      · rfl
      · rfl

end Filmography
