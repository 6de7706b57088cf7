import Mathlib.Data.List.Forall2

/-! When a sequence of answers that may be errors succeeds, and with what. -/

namespace HandshakeAuth.Answer

variable {ε α β : Type}

@[simp] theorem ok_bind (a : α) (f : α → Except ε β) : (Except.ok a >>= f) = f a := rfl

@[simp] theorem error_bind (e : ε) (f : α → Except ε β) :
    (Except.error e >>= f) = .error e := rfl

theorem bind_eq_ok_iff {x : Except ε α} {f : α → Except ε β} {b : β} :
    (x >>= f) = .ok b ↔ ∃ a, x = .ok a ∧ f a = .ok b := by
  rcases x with e | a
  · simp only [error_bind, reduceCtorEq, false_and, exists_false]
  · simp only [ok_bind, Except.ok.injEq, exists_eq_left']

theorem bind_eq_error_iff {x : Except ε α} {f : α → Except ε β} {e : ε} :
    (x >>= f) = .error e ↔ x = .error e ∨ ∃ a, x = .ok a ∧ f a = .error e := by
  rcases x with e' | a
  · simp only [error_bind, Except.error.injEq, reduceCtorEq, false_and, exists_false, or_false]
  · simp only [ok_bind, reduceCtorEq, false_or, Except.ok.injEq, exists_eq_left']

theorem isOk_iff {x : Except ε α} : x.isOk ↔ ∃ a, x = .ok a := by
  rcases x with e | a <;> simp [Except.isOk, Except.toBool]

theorem map_eq_ok_iff {x : Except ε α} {f : α → β} {b : β} :
    f <$> x = .ok b ↔ ∃ a, x = .ok a ∧ f a = b := by
  rcases x with e | a <;> simp [Functor.map, Except.map]

theorem map_const_eq_ok_iff {x : Except ε Unit} {b c : β} :
    (fun _ => b) <$> x = .ok c ↔ c = b ∧ x = .ok () := by
  rcases x with e | _ <;> simp [Functor.map, Except.map, eq_comm]

theorem mapM_eq_ok_iff {f : α → Except ε β} {xs : List α} {ys : List β} :
    xs.mapM f = .ok ys ↔ List.Forall₂ (fun x y => f x = .ok y) xs ys := by
  induction xs generalizing ys with
  | nil => simp [pure, Except.pure, eq_comm]
  | cons x xs ih =>
    rw [List.mapM_cons, bind_eq_ok_iff, List.forall₂_cons_left_iff]
    constructor
    · rintro ⟨y, hy, h⟩
      obtain ⟨zs, hzs, h⟩ := bind_eq_ok_iff.1 h
      exact ⟨y, zs, hy, ih.1 hzs, (Except.ok.inj h).symm⟩
    · rintro ⟨y, zs, hy, hzs, rfl⟩
      exact ⟨y, hy, bind_eq_ok_iff.2 ⟨zs, ih.2 hzs, rfl⟩⟩

theorem mapM_eq_ok_iff_map {f : α → Except ε β} {g : α → β} {P : α → Prop}
    (each : ∀ x y, f x = .ok y ↔ P x ∧ y = g x) {xs : List α} {ys : List β} :
    xs.mapM f = .ok ys ↔ (∀ x ∈ xs, P x) ∧ ys = xs.map g := by
  rw [mapM_eq_ok_iff]
  simp only [each]
  induction xs generalizing ys with
  | nil => simp
  | cons x xs ih =>
    rw [List.forall₂_cons_left_iff, List.forall_mem_cons]
    constructor
    · rintro ⟨y, zs, ⟨holds, rfl⟩, rest, rfl⟩
      obtain ⟨others, rfl⟩ := ih.1 rest
      exact ⟨⟨holds, others⟩, rfl⟩
    · rintro ⟨⟨holds, others⟩, rfl⟩
      exact ⟨g x, xs.map g, ⟨holds, rfl⟩, ih.2 ⟨others, rfl⟩, rfl⟩

theorem mapM_eq_error_iff {f : α → Except ε β} {xs : List α} {e : ε} :
    xs.mapM f = .error e ↔
      ∃ before x after, xs = before ++ x :: after ∧ (∃ ys, before.mapM f = .ok ys) ∧
        f x = .error e := by
  induction xs with
  | nil => simp [pure, Except.pure]
  | cons x xs ih =>
    rw [List.mapM_cons, bind_eq_error_iff]
    constructor
    · rintro (failed | ⟨y, answered, later⟩)
      · exact ⟨[], x, xs, rfl, ⟨[], rfl⟩, failed⟩
      · rcases bind_eq_error_iff.1 later with later | ⟨ys, -, done⟩
        · obtain ⟨before, x', after, rfl, ⟨ys, fine⟩, failed⟩ := ih.1 later
          have first : (x :: before).mapM f = .ok (y :: ys) :=
            mapM_eq_ok_iff.2 (.cons answered (mapM_eq_ok_iff.1 fine))
          exact ⟨x :: before, x', after, rfl, ⟨_, first⟩, failed⟩
        · exact nomatch done
    · rintro ⟨_ | ⟨x', before⟩, x'', after, split, ⟨ys, fine⟩, failed⟩
      · obtain ⟨rfl, rfl⟩ := List.cons.inj split
        exact .inl failed
      · obtain ⟨rfl, rfl⟩ := List.cons.inj split
        obtain _ | ⟨answered, rest⟩ := mapM_eq_ok_iff.1 fine
        have later := ih.2 ⟨before, x'', after, rfl, ⟨_, mapM_eq_ok_iff.2 rest⟩, failed⟩
        exact .inr ⟨_, answered, bind_eq_error_iff.2 (.inl later)⟩

theorem exists_of_mapM_eq_error {f : α → Except ε β} {xs : List α} {e : ε}
    (h : xs.mapM f = .error e) : ∃ x ∈ xs, f x = .error e := by
  obtain ⟨before, x, after, rfl, -, failed⟩ := mapM_eq_error_iff.1 h
  exact ⟨x, List.mem_append_right _ (List.mem_cons_self ..), failed⟩

theorem exists_mapM_of_forall {f : α → Except ε β} {xs : List α}
    (each : ∀ x ∈ xs, ∃ y, f x = .ok y) : ∃ ys, xs.mapM f = .ok ys := by
  rcases worked : xs.mapM f with e | ys
  · obtain ⟨x, mem, failed⟩ := exists_of_mapM_eq_error worked
    obtain ⟨y, held⟩ := each x mem
    exact nomatch failed.symm.trans held
  · exact ⟨ys, rfl⟩

theorem exists_of_mapM_eq_ok {f : α → Except ε β} {xs : List α} {ys : List β}
    (h : xs.mapM f = .ok ys) : ∀ x ∈ xs, ∃ y, f x = .ok y := by
  have answered := mapM_eq_ok_iff.1 h
  clear h
  induction answered with
  | nil => exact nofun
  | cons here _ ih => exact List.forall_mem_cons.2 ⟨⟨_, here⟩, ih⟩

def Reached (good : α → Prop) (xs : List α) (x : α) : Prop :=
  ∃ before after, xs = before ++ x :: after ∧ ∀ y ∈ before, good y

theorem Reached.mem {good : α → Prop} {xs : List α} {x : α} (h : Reached good xs x) : x ∈ xs := by
  obtain ⟨before, after, rfl, -⟩ := h
  exact List.mem_append_right _ (List.mem_cons_self ..)

theorem mapM_eq_error_iff_reached {f : α → Except ε β} {xs : List α} {e : ε} :
    xs.mapM f = .error e ↔ ∃ x, Reached (fun y => ∃ b, f y = .ok b) xs x ∧ f x = .error e := by
  rw [mapM_eq_error_iff]
  constructor
  · rintro ⟨before, x, after, split, ⟨ys, fine⟩, failed⟩
    exact ⟨x, ⟨before, after, split, exists_of_mapM_eq_ok fine⟩, failed⟩
  · rintro ⟨x, ⟨before, after, split, fine⟩, failed⟩
    exact ⟨before, x, after, split, exists_mapM_of_forall fine, failed⟩

theorem exists_of_forM_eq_error {f : α → Except ε Unit} {xs : List α} {e : ε}
    (h : xs.forM f = .error e) : ∃ x ∈ xs, f x = .error e := by
  induction xs with
  | nil => exact nomatch h
  | cons x xs ih =>
    change (f x >>= fun _ => xs.forM f) = .error e at h
    rcases bind_eq_error_iff.1 h with here | ⟨-, -, later⟩
    · exact ⟨x, List.mem_cons_self .., here⟩
    · obtain ⟨x', mem, failed⟩ := ih later
      exact ⟨x', List.mem_cons_of_mem _ mem, failed⟩

end HandshakeAuth.Answer
