import GraphProtocol.Proofs.Value.Entries
import GraphProtocol.Value.Equality

/-!
# Agreement of lists and dictionaries

Two dictionaries agree if they have the same keys, and related values under each. The comparison of
dictionaries goes through the entries of the first only, and counts. With distinct keys on both
sides this is agreement, which can be turned round, goes from one dictionary to the next, and does
not see the order of entries.
-/

set_option autoImplicit false

namespace GraphProtocol

variable {α β : Type}

/-! ## Lists -/

theorem sameList_iff {same : α → β → Bool} {xs : List α} {ys : List β} :
    sameList xs ys (fun x _ y _ => same x y) = true ↔
      List.Forall₂ (fun x y => same x y = true) xs ys := by
  have pairs : xs.zip ys = (xs.attach.zip ys.attach).map (Prod.map Subtype.val Subtype.val) := by
    rw [← List.zip_map, List.attach_map_subtype_val, List.attach_map_subtype_val]
  unfold sameList
  rw [Bool.and_eq_true, beq_iff_eq, List.all_eq_true, List.forall₂_iff_zip, pairs]
  refine and_congr_right fun _ => ⟨fun each x y among => ?_, fun each pair among => ?_⟩
  · obtain ⟨pair, listed, same⟩ := List.mem_map.mp among
    cases same
    exact each pair listed
  · exact each (List.mem_map_of_mem among)

theorem forall₂_imp {R S : α → β → Prop} {xs : List α} {ys : List β}
    (related : List.Forall₂ R xs ys) (imp : ∀ x ∈ xs, ∀ y ∈ ys, R x y → S x y) :
    List.Forall₂ S xs ys := by
  induction related with
  | nil => exact .nil
  | cons first _ ih =>
    refine .cons (imp _ List.mem_cons_self _ List.mem_cons_self first) (ih ?_)
    intro x among y among'
    exact imp x (List.mem_cons_of_mem _ among) y (List.mem_cons_of_mem _ among')

theorem forall₂_trans {γ : Type} {R : α → β → Prop} {S : β → γ → Prop} {xs : List α} {ys : List β}
    {zs : List γ} (first : List.Forall₂ R xs ys) (second : List.Forall₂ S ys zs) :
    List.Forall₂ (fun x z => ∃ y ∈ ys, R x y ∧ S y z) xs zs := by
  induction first generalizing zs with
  | nil =>
    cases second
    exact .nil
  | cons here _ ih =>
    obtain _ | ⟨next, others⟩ := second
    refine .cons ⟨_, List.mem_cons_self, here, next⟩ ((ih others).imp ?_)
    rintro x z ⟨y, among, related⟩
    exact ⟨y, List.mem_cons_of_mem _ among, related⟩

theorem forall₂_middle {R : α → α → Prop} {early late : List α} {x y : α}
    (others : ∀ z ∈ early ++ x :: late, R z z) (related : R x y) :
    List.Forall₂ R (early ++ x :: late) (early ++ y :: late) := by
  obtain ⟨before, after⟩ := List.forall_mem_append.mp others
  apply List.rel_append (List.forall₂_same.mpr before)
  exact .cons related (List.forall₂_same.mpr (List.forall_mem_cons.mp after).2)

/-! ## Dictionaries -/

namespace Dict

variable {a b c d : Dict α} {R S : α → α → Prop} {key : String} {x : α}

/-- The same keys, with related values under each. -/
structure Agrees (R : α → α → Prop) (a b : Dict α) : Prop where
  keys : ∀ key, key ∈ a.keys ↔ key ∈ b.keys
  values : ∀ key x y, a.get? key = some x → b.get? key = some y → R x y

theorem agrees_imp (agrees : a.Agrees R b) (imp : ∀ x ∈ a.values, ∀ y ∈ b.values, R x y → S x y) :
    a.Agrees S b where
  keys := agrees.keys
  values key x y found found' :=
    imp x (values_of_get found) y (values_of_get found') (agrees.values key x y found found')

theorem agrees_flip (agrees : a.Agrees R b) : b.Agrees (flip R) a where
  keys key := (agrees.keys key).symm
  values key y x found found' := agrees.values key x y found' found

theorem agrees_trans (first : a.Agrees R b) (second : b.Agrees S c) :
    a.Agrees (fun x z => ∃ y ∈ b.values, R x y ∧ S y z) c where
  keys key := (first.keys key).trans (second.keys key)
  values key x z found found' := by
    obtain ⟨y, between⟩ := get?_some_iff.mpr ((first.keys key).mp (get?_some_iff.mp ⟨x, found⟩))
    exact ⟨y, values_of_get between, first.values key x y found between,
      second.values key y z between found'⟩

theorem agrees_self (distinct : d.DistinctKeys) : d.Agrees R d ↔ ∀ x ∈ d.values, R x x := by
  constructor
  · intro agrees x among
    obtain ⟨⟨key, y⟩, listed, rfl⟩ := List.mem_map.mp among
    have found := (mem_entries distinct).mp listed
    exact agrees.values key y y found found
  · intro each
    refine ⟨fun _ => Iff.rfl, fun key x y found found' => ?_⟩
    cases Option.some.inj (found.symm.trans found')
    exact each x (values_of_get found)

theorem agrees_perm (perm : a.entries.Perm b.entries) (distinct : a.DistinctKeys)
    (each : ∀ x ∈ a.values, R x x) : a.Agrees R b where
  keys _ := (perm.map Prod.fst).mem_iff
  values key x y found found' := by
    have moved := perm.mem_iff.mpr ((mem_entries (distinct_perm perm distinct)).mpr found')
    cases Option.some.inj (found.symm.trans ((mem_entries distinct).mp moved))
    exact each x (values_of_get found)

section Middle

variable {early late : List (String × α)} {y : α}

theorem distinct_middle (distinct : (mk (early ++ (key, x) :: late)).DistinctKeys) :
    (mk (early ++ (key, y) :: late)).DistinctKeys := by
  unfold DistinctKeys keys at *
  simpa using distinct

theorem agrees_middle (distinct : (mk (early ++ (key, x) :: late)).DistinctKeys)
    (each : ∀ z ∈ (mk (early ++ (key, x) :: late)).values, R z z) (related : R x y) :
    (mk (early ++ (key, x) :: late)).Agrees R (mk (early ++ (key, y) :: late)) where
  keys _ := by simp [keys]
  values other u w found found' := by
    have here := (mem_entries distinct).mpr found
    have inside {z : α} (among : (other, z) ∈ early ++ (key, y) :: late) : z = w :=
      Option.some.inj (((mem_entries (distinct_middle distinct)).mp among).symm.trans found')
    rcases List.mem_append.mp here with before | behind
    · cases inside (List.mem_append_left _ before)
      exact each u (values_of_get found)
    · rcases List.mem_cons.mp behind with same | after
      · cases same
        cases inside (List.mem_append_right _ List.mem_cons_self)
        exact related
      · cases inside (List.mem_append_right _ (List.mem_cons_of_mem _ after))
        exact each u (values_of_get found)

end Middle

/-- As many keys and none that is missing are the same keys. -/
theorem keys_agree (distinct : a.DistinctKeys) (sizes : a.size = b.size)
    (inside : a.keys ⊆ b.keys) : a.keys.Perm b.keys := by
  apply (distinct.subperm inside).perm_of_length_le
  rw [size_keys, size_keys, sizes]

theorem sameEntries_iff (distinct : a.DistinctKeys) (distinct' : b.DistinctKeys)
    {same : α → α → Bool} : a.sameEntries b (fun y _ x _ => same y x) = true ↔
      a.Agrees (fun x y => same y x = true) b := by
  unfold sameEntries
  simp only [Bool.and_eq_true, beq_iff_eq, List.all_eq_true]
  constructor
  · rintro ⟨sizes, each⟩
    have held (key : String) (x : α) (found : a.get? key = some x) :
        ∃ y, b.get? key = some y ∧ same y x = true := by
      have paired := each ⟨(key, x), (mem_entries distinct).mpr found⟩ (List.mem_attach _ _)
      dsimp only at paired
      split at paired
      next y tabled => exact ⟨y, (b.getElem?_table key).symm.trans tabled, paired⟩
      next => cases paired
    have inside : a.keys ⊆ b.keys := by
      intro key among
      obtain ⟨x, found⟩ := get?_some_iff.mpr among
      obtain ⟨y, found', -⟩ := held key x found
      exact get?_some_iff.mp ⟨y, found'⟩
    refine ⟨fun key => (keys_agree distinct sizes inside).mem_iff, fun key x y found found' => ?_⟩
    obtain ⟨z, found'', paired⟩ := held key x found
    cases Option.some.inj (found'.symm.trans found'')
    exact paired
  · intro agrees
    have keys : a.keys.Perm b.keys :=
      (List.perm_ext_iff_of_nodup distinct distinct').mpr agrees.keys
    refine ⟨by rw [← size_keys, ← size_keys, keys.length_eq], ?_⟩
    rintro ⟨⟨key, x⟩, among⟩ -
    have found := (mem_entries distinct).mp among
    obtain ⟨y, found'⟩ := get?_some_iff.mpr ((agrees.keys key).mp (get?_some_iff.mp ⟨x, found⟩))
    have tabled := (b.getElem?_table key).trans found'
    split
    next z tabled' =>
      cases tabled.symm.trans tabled'
      exact agrees.values key x y found found'
    next absent => cases tabled.symm.trans absent

end Dict

end GraphProtocol
