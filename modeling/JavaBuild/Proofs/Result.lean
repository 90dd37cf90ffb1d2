import Mathlib.Data.List.Forall2

/-!
# Results and failures

When a step after another, a change of a result or a failure, or a step for each item of
a list succeeds or fails.
-/

namespace JavaBuild

variable {ε ε' α β γ : Type}

theorem bind_eq_ok_iff {x : Except ε α} {f : α → Except ε β} {b : β} :
    x >>= f = .ok b ↔ ∃ a, x = .ok a ∧ f a = .ok b := by
  cases x with
  | error e => exact ⟨fun h => (nomatch h), fun ⟨_, h, _⟩ => nomatch h⟩
  | ok a => exact ⟨fun h => ⟨a, rfl, h⟩, fun ⟨_, h, hf⟩ => Except.ok.inj h ▸ hf⟩

theorem bind_eq_error_iff {x : Except ε α} {f : α → Except ε β} {e : ε} :
    x >>= f = .error e ↔ x = .error e ∨ ∃ a, x = .ok a ∧ f a = .error e := by
  cases x with
  | error e' => simp [bind, Except.bind]
  | ok a => simp [bind, Except.bind]

theorem map_eq_ok_iff {x : Except ε α} {f : α → β} {b : β} :
    x.map f = .ok b ↔ ∃ a, x = .ok a ∧ f a = b := by
  cases x <;> simp [Except.map]

theorem map_eq_error_iff {x : Except ε α} {f : α → β} {e : ε} :
    x.map f = .error e ↔ x = .error e := by
  cases x <;> simp [Except.map]

theorem mapError_ok (f : ε → ε') (a : α) : (Except.ok a : Except ε α).mapError f = .ok a := rfl

theorem mapError_error (f : ε → ε') (e : ε) :
    (Except.error e : Except ε α).mapError f = .error (f e) := rfl

theorem mapError_eq_error_iff {x : Except ε α} {f : ε → ε'} {e' : ε'} :
    x.mapError f = .error e' ↔ ∃ e, x = .error e ∧ f e = e' := by
  cases x <;> simp [mapError_ok, mapError_error]

instance decidableExistsOk {x : Except ε β} {P : β → Prop} [DecidablePred P] :
    Decidable (∃ b, x = .ok b ∧ P b) :=
  match x with
  | .ok b => decidable_of_iff (P b) (by simp)
  | .error _ => .isFalse (by simp)

instance decidableForallOk {x : Except ε β} {P : β → Prop} [DecidablePred P] :
    Decidable (∀ b, x = .ok b → P b) :=
  match x with
  | .ok b => decidable_of_iff (P b) (by simp)
  | .error _ => .isTrue (by simp)

instance decidableForallError {x : Except ε β} {P : ε → Prop} [DecidablePred P] :
    Decidable (∀ e, x = .error e → P e) :=
  match x with
  | .ok _ => .isTrue (by simp)
  | .error e => decidable_of_iff (P e) (by simp)

instance decidableIsOk {x : Except ε β} : Decidable (∃ b, x = .ok b) :=
  match x with
  | .ok b => .isTrue ⟨b, rfl⟩
  | .error _ => .isFalse (by simp)

/-- A step for each item of a list succeeds if each of these steps does. -/
theorem exists_mapM_eq_ok {f : α → Except ε β} {as : List α} (h : ∀ a ∈ as, ∃ b, f a = .ok b) :
    ∃ bs, as.mapM f = .ok bs := by
  induction as with
  | nil => exact ⟨[], rfl⟩
  | cons a as ih =>
    obtain ⟨⟨b, hb⟩, has⟩ := List.forall_mem_cons.1 h
    obtain ⟨bs, hbs⟩ := ih has
    exact ⟨b :: bs, by rw [List.mapM_cons, hb, hbs]; rfl⟩

/-- A step for each item of a list gives the results of these steps. -/
theorem mapM_eq_ok {f : α → Except ε β} {as : List α} {bs : List β} (h : as.mapM f = .ok bs) :
    (∀ a ∈ as, ∃ b, f a = .ok b) ∧ ∀ b, b ∈ bs ↔ ∃ a ∈ as, f a = .ok b := by
  induction as generalizing bs with
  | nil =>
    cases h
    simp
  | cons a as ih =>
    rw [List.mapM_cons] at h
    obtain ⟨b, hb, h⟩ := bind_eq_ok_iff.1 h
    obtain ⟨bs', hbs, h⟩ := bind_eq_ok_iff.1 h
    cases h
    obtain ⟨hall, hmem⟩ := ih hbs
    refine ⟨List.forall_mem_cons.2 ⟨⟨b, hb⟩, hall⟩, fun c => ?_⟩
    simp only [List.mem_cons, hmem, exists_eq_or_imp, hb, Except.ok.injEq, @eq_comm _ c b]

/-- Steps for the items of a list give these results, one by one. -/
theorem mapM_eq_ok_iff {f : α → Except ε β} {as : List α} {bs : List β} :
    as.mapM f = .ok bs ↔ List.Forall₂ (fun a b => f a = .ok b) as bs := by
  induction as generalizing bs with
  | nil =>
    rw [List.mapM_nil, List.forall₂_nil_left_iff]
    exact ⟨fun h => (Except.ok.inj h).symm, fun h => h ▸ rfl⟩
  | cons a as ih =>
    rw [List.mapM_cons, bind_eq_ok_iff, List.forall₂_cons_left_iff]
    constructor
    · rintro ⟨b, hb, h⟩
      obtain ⟨bs', hbs, h⟩ := bind_eq_ok_iff.1 h
      exact ⟨b, bs', hb, ih.1 hbs, (Except.ok.inj h).symm⟩
    · rintro ⟨b, bs', hb, hbs, rfl⟩
      exact ⟨b, hb, bind_eq_ok_iff.2 ⟨bs', ih.2 hbs, rfl⟩⟩

/-- A change of what each step gives is one of what they give together. -/
theorem map_mapM (f : α → Except ε β) (g : β → γ) (as : List α) :
    List.map g <$> as.mapM f = as.mapM fun a => g <$> f a := by
  induction as with
  | nil => rfl
  | cons a as ih =>
    simp only [List.mapM_cons, ← ih, bind_map_left, map_bind, map_pure, List.map_cons]

/-- Steps give these results if they do so for the items that are paired with them. -/
theorem mapM_eq_ok_of_forall₂ {R : β → α → Prop} {f : α → Except ε γ} {g : β → γ} {as : List α}
    {bs : List β} (h : List.Forall₂ R bs as) (hf : ∀ b ∈ bs, ∀ a, R b a → f a = .ok (g b)) :
    as.mapM f = .ok (bs.map g) := by
  induction h with
  | nil => rfl
  | @cons b a bs as hba _ ih =>
    obtain ⟨hb, hbs⟩ := List.forall_mem_cons.1 hf
    rw [List.mapM_cons, hb a hba, ih hbs]
    rfl

/-- Steps for the items of a list succeed all together if each of them does. -/
theorem exists_mapM_eq_ok_iff {f : α → Except ε β} {as : List α} :
    (∃ bs, as.mapM f = .ok bs) ↔ ∀ a ∈ as, ∃ b, f a = .ok b :=
  ⟨fun ⟨_, h⟩ => (mapM_eq_ok h).1, exists_mapM_eq_ok⟩

/-- Steps for the items of a list fail as the first of them does that fails. -/
theorem mapM_eq_error_iff {f : α → Except ε β} {as : List α} {e : ε} :
    as.mapM f = .error e ↔ ∃ before a after, as = before ++ a :: after ∧
      (∀ b ∈ before, ∃ c, f b = .ok c) ∧ f a = .error e := by
  induction as with
  | nil =>
    refine ⟨fun h => (nomatch h), ?_⟩
    rintro ⟨before, a, after, h, -⟩
    simp at h
  | cons a as ih =>
    rw [List.mapM_cons]
    constructor
    · -- Either the first item fails, or one of the others does after it has not.
      intro h
      rcases bind_eq_error_iff.1 h with ha | ⟨b, hb, h⟩
      · exact ⟨[], a, as, rfl, nofun, ha⟩
      · rcases bind_eq_error_iff.1 h with has | ⟨bs, -, h⟩
        · obtain ⟨before, c, after, rfl, hbefore, hc⟩ := ih.1 has
          exact ⟨a :: before, c, after, rfl, List.forall_mem_cons.2 ⟨⟨b, hb⟩, hbefore⟩, hc⟩
        · cases h
    · rintro ⟨before, c, after, h, hbefore, hc⟩
      cases before with
      | nil =>
        cases h
        rw [hc]
        rfl
      | cons b before =>
        cases h
        obtain ⟨⟨d, hd⟩, hbefore⟩ := List.forall_mem_cons.1 hbefore
        rw [hd, ih.2 ⟨before, c, after, rfl, hbefore, hc⟩]
        rfl

/-- Steps for the items of a list fail as one of them does. -/
theorem exists_of_mapM_eq_error {f : α → Except ε β} {as : List α} {e : ε}
    (h : as.mapM f = .error e) : ∃ a ∈ as, f a = .error e := by
  obtain ⟨before, a, after, rfl, -, ha⟩ := mapM_eq_error_iff.1 h
  exact ⟨a, List.mem_append_cons_self, ha⟩

theorem exists_of_filterAuxM_eq_error {f : α → Except ε Bool} {as chosen : List α} {e : ε}
    (h : as.filterAuxM f chosen = .error e) : ∃ a ∈ as, f a = .error e := by
  induction as generalizing chosen with
  | nil => cases h
  | cons a as ih =>
    rcases bind_eq_error_iff.1 h with ha | ⟨b, -, has⟩
    · exact ⟨a, List.mem_cons_self, ha⟩
    · exact (ih has).imp fun _ => And.imp_left (List.mem_cons_of_mem _)

/-- A choice among the items of a list fails as it does for one of them. -/
theorem exists_of_filterM_eq_error {f : α → Except ε Bool} {as : List α} {e : ε}
    (h : as.filterM f = .error e) : ∃ a ∈ as, f a = .error e := by
  rcases bind_eq_error_iff.1 h with h | ⟨chosen, -, h⟩
  · exact exists_of_filterAuxM_eq_error h
  · cases h

theorem filterAuxM_eq_ok {f : α → Except ε Bool} {p : α → Bool} {as : List α}
    (h : ∀ a ∈ as, f a = .ok (p a)) (chosen : List α) :
    as.filterAuxM f chosen = .ok ((as.filter p).reverse ++ chosen) := by
  induction as generalizing chosen with
  | nil => rfl
  | cons a as ih =>
    obtain ⟨ha, has⟩ := List.forall_mem_cons.1 h
    rw [List.filterAuxM, ha]
    refine (ih has _).trans ?_
    cases hp : p a <;> simp [hp]

/-- A choice among the items of a list succeeds if each of them is decided. -/
theorem filterM_eq_ok {f : α → Except ε Bool} {p : α → Bool} {as : List α}
    (h : ∀ a ∈ as, f a = .ok (p a)) : as.filterM f = .ok (as.filter p) := by
  rw [List.filterM, filterAuxM_eq_ok h]
  simp [bind, Except.bind, pure, Except.pure]

theorem exists_ok_of_filterAuxM_eq_ok {f : α → Except ε Bool} {as chosen bs : List α}
    (h : as.filterAuxM f chosen = .ok bs) : ∀ a ∈ as, ∃ b, f a = .ok b := by
  induction as generalizing chosen with
  | nil => exact List.forall_mem_nil _
  | cons a as ih =>
    obtain ⟨b, hb, h⟩ := bind_eq_ok_iff.1 h
    exact List.forall_mem_cons.2 ⟨⟨b, hb⟩, ih h⟩

/-- A choice among the items of a list takes those that are decided to be taken. -/
theorem mem_of_filterM_eq_ok {f : α → Except ε Bool} {as bs : List α}
    (h : as.filterM f = .ok bs) {a : α} : a ∈ bs ↔ a ∈ as ∧ f a = .ok true := by
  obtain ⟨chosen, hchosen, -⟩ := bind_eq_ok_iff.1 h
  have hdecided : ∀ a ∈ as, f a = .ok ((f a).toOption.getD false) := by
    intro a ha
    obtain ⟨b, hb⟩ := exists_ok_of_filterAuxM_eq_ok hchosen a ha
    rw [hb]
    rfl
  rw [filterM_eq_ok hdecided] at h
  cases h
  rw [List.mem_filter]
  refine and_congr_right fun ha => ?_
  nth_rewrite 2 [hdecided a ha]
  simp

/-- What each step makes of an item can be told from the items. -/
theorem map_of_mapM_eq_ok {f : α → Except ε β} {g : β → γ} {h : α → γ} {as : List α}
    {bs : List β} (hf : ∀ a b, f a = .ok b → g b = h a) (hbs : as.mapM f = .ok bs) :
    bs.map g = as.map h := by
  induction as generalizing bs with
  | nil =>
    cases hbs
    rfl
  | cons a as ih =>
    rw [List.mapM_cons] at hbs
    obtain ⟨b, hb, hbs⟩ := bind_eq_ok_iff.1 hbs
    obtain ⟨bs', hbs', h'⟩ := bind_eq_ok_iff.1 hbs
    cases h'
    rw [List.map_cons, List.map_cons, hf a b hb, ih hbs']

end JavaBuild
