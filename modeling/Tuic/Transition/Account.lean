import Mathlib.Data.List.Nodup
import Mathlib.Data.List.Perm.Subperm
import Tuic.Transition.Pool

/-! # Accounting for what tasks did

Lists as records of what happened, compared as multisets: `l.Subperm l'` says that everything in `l`
is in `l'`, at least as many times.

* `subperm_of_doneBy` — a record of tagged entries is compared tag by tag.
* `filterMap_subperm_of_nodup` — what distinct members of a list of sources account for is among
  what the sources account for altogether.
* `Conserved` — tasks that take entries in, hold them and give them out again: what came out and
  what is held came in, task by task and in order.
* `Matched` — a record each of whose entries is put down to a source of its own, with rules for one
  more entry and for a change of the sources. -/

namespace Transition

variable {α β γ : Type*}

/-- What is picked from a smaller record is picked from a larger one. -/
theorem subperm_filterMap {l l' : List α} (h : l.Subperm l') (f : α → Option β) :
    (l.filterMap f).Subperm (l'.filterMap f) := by
  obtain ⟨m, hperm, hsub⟩ := h
  exact ⟨m.filterMap f, hperm.filterMap f, hsub.filterMap f⟩

/-- The same for the images of the entries. -/
theorem subperm_map {l l' : List α} (h : l.Subperm l') (f : α → β) :
    (l.map f).Subperm (l'.map f) := by
  obtain ⟨m, hperm, hsub⟩ := h
  exact ⟨m.map f, hperm.map f, hsub.map f⟩

/-- How often a tagged entry is in a log. -/
theorem count_doneBy [DecidableEq β] (log : List (Nat × β)) (i : Nat) (x : β) :
    (doneBy i log).count x = log.count (i, x) := by
  induction log with
  | nil => rfl
  | cons e log ih =>
    obtain ⟨j, y⟩ := e
    by_cases hj : j = i
    · subst hj
      have hcons : doneBy j ((j, y) :: log) = y :: doneBy j log := by simp [doneBy]
      rw [hcons, List.count_cons, List.count_cons, ih]
      simp
    · have hcons : doneBy i ((j, y) :: log) = doneBy i log := by simp [doneBy, hj]
      rw [hcons, List.count_cons, ih]
      simp [hj]

/-- **Tag by tag.** When under every tag there is no more in one log than in the other, there is no
more in it altogether. -/
theorem subperm_of_doneBy [DecidableEq β] {log log' : List (Nat × β)}
    (h : ∀ i, (doneBy i log).Subperm (doneBy i log')) : log.Subperm log' := by
  rw [List.subperm_ext_iff]
  rintro ⟨i, x⟩ -
  rw [← count_doneBy, ← count_doneBy]
  exact (h i).count_le x

/-- An entry of a list without duplicates has one index. -/
theorem index_unique {l : List α} {i j : Nat} {x : α} (hnodup : l.Nodup) (hi : l[i]? = some x)
    (hj : l[j]? = some x) : i = j :=
  (List.getElem?_inj (List.getElem?_eq_some_iff.mp hi).1 hnodup).mp (hi.trans hj.symm)

/-- **Distinct sources.** What distinct members of a list of sources account for is among what all
of them account for. -/
theorem filterMap_subperm_of_nodup {xs : List α} {ks : List Nat} (f : α → Option β)
    (hnodup : ks.Nodup) (hlt : ∀ k ∈ ks, k < xs.length) :
    (ks.filterMap fun k => xs[k]?.bind f).Subperm (xs.filterMap f) := by
  have hrange : ks.Subperm (List.range xs.length) :=
    hnodup.subperm fun k hk => List.mem_range.mpr (hlt k hk)
  have hall : (List.range xs.length).filterMap (fun k => xs[k]?.bind f) = xs.filterMap f := by
    have hget : (List.range xs.length).map (fun k => xs[k]?) = xs.map some := by
      apply List.ext_getElem?
      intro k
      rcases Nat.lt_or_ge k xs.length with hk | hk
      · simp [hk]
      · simp [hk]
    calc (List.range xs.length).filterMap (fun k => xs[k]?.bind f)
        = ((List.range xs.length).map fun k => xs[k]?).filterMap (·.bind f) := by
          rw [List.filterMap_map]; rfl
      _ = (xs.map some).filterMap (·.bind f) := by rw [hget]
      _ = xs.filterMap f := by rw [List.filterMap_map]; rfl
  rw [← hall]
  exact subperm_filterMap hrange _

/-! ## Tasks that pass entries on -/

/-- What task `i` holds. -/
def heldBy (f : α → List β) (i : Nat) (ts : List α) : List β := (ts[i]?.map f).getD []

section Held

variable {f : α → List β} {ts : List α} {k : Nat} {t t' : α}

/-- What a task holds after it was replaced. -/
theorem heldBy_set_self (hk : ts[k]? = some t) : heldBy f k (ts.set k t') = f t' := by
  rw [heldBy, getElem?_set_of_some hk]
  rfl

/-- What the others hold. -/
theorem heldBy_set_of_ne {i : Nat} (hne : i ≠ k) : heldBy f i (ts.set k t') = heldBy f i ts := by
  rw [heldBy, List.getElem?_set_ne hne.symm]
  rfl

/-- A new task that holds nothing changes nothing. -/
theorem heldBy_append {i : Nat} (ht : f t = []) : heldBy f i (ts ++ [t]) = heldBy f i ts := by
  rcases Nat.lt_trichotomy i ts.length with hlt | rfl | hgt
  · rw [heldBy, List.getElem?_append_left hlt]
    rfl
  · simp [heldBy, ht]
  · rw [heldBy, heldBy, List.getElem?_eq_none (by simp; omega),
      List.getElem?_eq_none (Nat.le_of_lt hgt)]

end Held

/-- **Nothing comes out that did not come in**: for every task, what it gave out and what it holds
is, in order, some of what it took in. -/
def Conserved (f : α → List β) (ts : List α) (taken given : List (Nat × β)) : Prop :=
  ∀ i, (doneBy i given ++ heldBy f i ts).Sublist (doneBy i taken)

namespace Conserved

variable {f : α → List β} {ts : List α} {taken given : List (Nat × β)}

/-- There is no task, and nothing was taken. -/
theorem nil : Conserved f ([] : List α) [] [] := fun _ => List.Sublist.refl _

/-- **A task moves entries**: it takes `new` in, gives `out` out, and holds what is left, or less.
-/
theorem set (h : Conserved f ts taken given) {k : Nat} {t t' : α} (hk : ts[k]? = some t)
    {new out : List β} (hmove : (out ++ f t').Sublist (f t ++ new)) :
    Conserved f (ts.set k t') (taken ++ new.map (k, ·)) (given ++ out.map (k, ·)) := by
  intro i
  rw [doneBy_append, doneBy_append]
  by_cases hi : i = k
  · subst hi
    have hheld : heldBy f i ts = f t := by rw [heldBy, hk]; rfl
    have hi := h i
    rw [hheld] at hi
    rw [heldBy_set_self hk, doneBy_map_self, doneBy_map_self, List.append_assoc]
    refine ((List.append_sublist_append_left _).mpr hmove).trans ?_
    rw [← List.append_assoc]
    exact (List.append_sublist_append_right _).mpr hi
  · rw [heldBy_set_of_ne hi, doneBy_map_of_ne (Ne.symm hi), doneBy_map_of_ne (Ne.symm hi),
      List.append_nil, List.append_nil]
    exact h i

/-- A task that takes nothing in and gives nothing out may drop some of what it holds. -/
theorem keep (h : Conserved f ts taken given) {k : Nat} {t t' : α} (hk : ts[k]? = some t)
    (hkeep : (f t').Sublist (f t)) : Conserved f (ts.set k t') taken given := by
  have hmove : (([] : List β) ++ f t').Sublist (f t ++ []) := by rwa [List.append_nil]
  have hset := h.set hk hmove
  rwa [List.map_nil, List.append_nil, List.append_nil] at hset

/-- **A task appears** that holds nothing. -/
theorem spawn (h : Conserved f ts taken given) {t : α} (ht : f t = []) :
    Conserved f (ts ++ [t]) taken given := by
  intro i
  rw [heldBy_append ht]
  exact h i

/-- What came out is among what came in. -/
theorem subperm [DecidableEq β] (h : Conserved f ts taken given) : given.Subperm taken :=
  subperm_of_doneBy fun i => ((List.sublist_append_left _ _).trans (h i)).subperm

end Conserved

/-! ## Records matched with their sources -/

/-- What stands second in a pair of related lists has something that stands first. -/
theorem forall₂_exists_left {R : α → β → Prop} {l : List α} {l' : List β}
    (h : List.Forall₂ R l l') {y : β} (hy : y ∈ l') : ∃ x ∈ l, R x y := by
  induction h with
  | nil => cases hy
  | cons hxy _ ih =>
    rcases List.mem_cons.mp hy with rfl | hy
    · exact ⟨_, List.mem_cons_self, hxy⟩
    · obtain ⟨x, hx, hR⟩ := ih hy
      exact ⟨x, List.mem_cons_of_mem _ hx, hR⟩

/-- And the other way round. -/
theorem forall₂_exists_right {R : α → β → Prop} {l : List α} {l' : List β}
    (h : List.Forall₂ R l l') {x : α} (hx : x ∈ l) : ∃ y ∈ l', R x y :=
  forall₂_exists_left (R := flip R) h.flip hx

/-- Every entry of a record is put down to a source of its own: the sources are distinct, and each
stands in the relation `R` to its entry. -/
def Matched (R : Nat → β → Prop) (record : List β) : Prop :=
  ∃ sources : List Nat, sources.Nodup ∧ List.Forall₂ R sources record

namespace Matched

variable {R R' : Nat → β → Prop} {record : List β}

/-- Nothing is recorded yet. -/
theorem nil : Matched R ([] : List β) := ⟨[], List.nodup_nil, .nil⟩

/-- The sources may be described differently. -/
theorem mono (h : Matched R record) (hR : ∀ i x, R i x → R' i x) : Matched R' record := by
  obtain ⟨sources, hnodup, hall⟩ := h
  exact ⟨sources, hnodup, hall.imp fun i x hix => hR i x hix⟩

/-- What the entries say may be described differently. -/
theorem map {R' : Nat → γ → Prop} (h : Matched R record) (g : β → γ)
    (hR : ∀ i x, R i x → R' i (g x)) : Matched R' (record.map g) := by
  obtain ⟨sources, hnodup, hall⟩ := h
  refine ⟨sources, hnodup, ?_⟩
  rw [List.forall₂_map_right_iff]
  exact hall.imp fun i x hix => hR i x hix

/-- **One more entry**, from a source that no entry can be put down to before. -/
theorem snoc (h : Matched R record) {i : Nat} {x : β} (hnew : ∀ y, ¬ R i y)
    (hR : ∀ j y, R j y → R' j y) (hx : R' i x) : Matched R' (record ++ [x]) := by
  obtain ⟨sources, hnodup, hall⟩ := h
  have hi : i ∉ sources := by
    intro hmem
    obtain ⟨y, -, hy⟩ := forall₂_exists_right hall hmem
    exact hnew y hy
  refine ⟨sources ++ [i], ?_, ?_⟩
  · exact hnodup.append (List.nodup_singleton i) (List.disjoint_singleton.mpr hi)
  · exact List.rel_append (hall.imp fun j y hjy => hR j y hjy) (.cons hx .nil)

/-- **The sources have sources of their own**, no two of them the same. -/
theorem reindex (h : Matched R record) {Q : Nat → Nat → Prop}
    (hQ : ∀ i j k, Q i k → Q j k → i = j) (hR : ∀ i x, R i x → ∃ k, Q i k ∧ R' k x) :
    Matched R' record := by
  obtain ⟨sources, hnodup, hall⟩ := h
  obtain ⟨ks, hks, hall'⟩ :
      ∃ ks, List.Forall₂ Q sources ks ∧ List.Forall₂ R' ks record := by
    clear hnodup
    induction hall with
    | nil => exact ⟨[], .nil, .nil⟩
    | cons hix _ ih =>
      obtain ⟨ks, hks, hall'⟩ := ih
      obtain ⟨k, hk, hx⟩ := hR _ _ hix
      exact ⟨k :: ks, .cons hk hks, .cons hx hall'⟩
  refine ⟨ks, ?_, hall'⟩
  clear hall hall'
  induction hks with
  | nil => exact List.nodup_nil
  | cons hik hrest ih =>
    rw [List.nodup_cons] at hnodup ⊢
    refine ⟨fun hmem => hnodup.1 ?_, ih hnodup.2⟩
    -- a source of the rest would be the source of two
    obtain ⟨j, hj, hjk⟩ := forall₂_exists_left hrest hmem
    rw [hQ _ _ _ hik hjk]
    exact hj

/-- **A matched record is among what its sources account for**, when what each source accounts for
is determined. -/
theorem subperm (h : Matched R record) {xs : List α} (f : α → Option β)
    (hf : ∀ i y, R i y → xs[i]?.bind f = some y) : record.Subperm (xs.filterMap f) := by
  obtain ⟨sources, hnodup, hall⟩ := h
  have hrecord : record = sources.filterMap fun i => xs[i]?.bind f := by
    clear hnodup
    induction hall with
    | nil => rfl
    | cons hix _ ih => rw [List.filterMap_cons, hf _ _ hix, ← ih]
  rw [hrecord]
  refine filterMap_subperm_of_nodup f hnodup fun i hi => ?_
  obtain ⟨y, -, hy⟩ := forall₂_exists_right hall hi
  obtain ⟨x, hx, -⟩ := Option.bind_eq_some_iff.mp (hf i y hy)
  exact (List.getElem?_eq_some_iff.mp hx).1

end Matched

end Transition
