import Mathlib.Data.List.Induction

/-! # Pools of tasks

A concurrent system keeps its tasks in a list; a task is named by its index, a step of one task
replaces its entry (`List.set`), and a new task is appended. Statements about every task
(`All P tasks`) are carried through such updates by the rules below: `All.set` splits the work into
the stepping task and the others, whose statement may be restated in the new shared state, which is
where interference between tasks has to be looked at. What the entries count for altogether is
`total`. -/

namespace Transition

variable {τ : Type*}

/-- The task stepping is the one replaced; every other entry is as before. -/
theorem getElem?_set_cases {ts : List τ} {i j : Nat} {t u : τ} (h : (ts.set i t)[j]? = some u) :
    (j = i ∧ u = t) ∨ (j ≠ i ∧ ts[j]? = some u) := by
  by_cases hij : i = j
  · subst hij
    rw [List.getElem?_set_self'] at h
    cases hts : ts[i]? with
    | none => simp [hts] at h
    | some v =>
      simp only [hts] at h
      exact Or.inl ⟨rfl, (Option.some.inj h).symm⟩
  · rw [List.getElem?_set_ne hij] at h
    exact Or.inr ⟨fun h => hij h.symm, h⟩

/-- The task stepping is replaced. -/
theorem getElem?_set_of_some {ts : List τ} {i : Nat} {t t' : τ} (h : ts[i]? = some t) :
    (ts.set i t')[i]? = some t' :=
  List.getElem?_set_self (List.getElem?_eq_some_iff.mp h).1

/-- A spawned task leaves every other entry where it is. -/
theorem getElem?_append_of_some {ts us : List τ} {i : Nat} {t : τ} (h : ts[i]? = some t) :
    (ts ++ us)[i]? = some t :=
  (List.getElem?_append_left (List.getElem?_eq_some_iff.mp h).1).trans h

/-- A spawned task comes last; every other entry is as before. -/
theorem getElem?_append_singleton_cases {ts : List τ} {j : Nat} {t u : τ}
    (h : (ts ++ [t])[j]? = some u) : (j = ts.length ∧ u = t) ∨ ts[j]? = some u := by
  rcases Nat.lt_trichotomy j ts.length with hlt | heq | hgt
  · rw [List.getElem?_append_left hlt] at h
    exact Or.inr h
  · subst heq
    simp only [List.getElem?_concat_length] at h
    exact Or.inl ⟨rfl, (Option.some.inj h).symm⟩
  · rw [List.getElem?_eq_none (by simp; omega)] at h
    cases h

/-- A statement about every task and its index. -/
def All (P : Nat → τ → Prop) (ts : List τ) : Prop := ∀ i t, ts[i]? = some t → P i t

namespace All

variable {P Q : Nat → τ → Prop} {ts : List τ}

/-- It holds of the empty pool. -/
theorem nil : All P ([] : List τ) := by
  intro i t h
  simp at h

/-- **Consequence** for every task. -/
theorem mono (h : All P ts) (hPQ : ∀ i t, ts[i]? = some t → P i t → Q i t) : All Q ts :=
  fun i t ht => hPQ i t ht (h i t ht)

/-- **A task steps**: its new entry satisfies the statement, and no other task is disturbed. -/
theorem set {i : Nat} {t' : τ} (h : All P ts) (hi : Q i t')
    (hothers : ∀ j t, j ≠ i → ts[j]? = some t → P j t → Q j t) : All Q (ts.set i t') := by
  intro j u hj
  rcases getElem?_set_cases hj with ⟨rfl, rfl⟩ | ⟨hne, hj⟩
  · exact hi
  · exact hothers j u hne hj (h j u hj)

/-- **A task is spawned**: it satisfies the statement, and no other task is disturbed. -/
theorem spawn {t' : τ} (h : All P ts) (hnew : Q ts.length t')
    (hothers : ∀ j t, ts[j]? = some t → P j t → Q j t) : All Q (ts ++ [t']) := by
  intro j u hj
  rcases getElem?_append_singleton_cases hj with ⟨rfl, rfl⟩ | hj
  · exact hnew
  · exact hothers j u hj (h j u hj)

end All

/-! ## What the entries of a pool count for

A number that every entry has a share in, such as how many references they hold altogether. -/

section Total

variable {f : τ → Nat} {ts : List τ} {i : Nat} {t t' : τ}

/-- The shares of all entries. -/
def total (f : τ → Nat) : List τ → Nat
  | [] => 0
  | t :: ts => f t + total f ts

@[simp] theorem total_nil : total f ([] : List τ) = 0 := rfl

@[simp] theorem total_cons : total f (t :: ts) = f t + total f ts := rfl

/-- A new entry adds its share. -/
theorem total_concat : total f (ts ++ [t]) = total f ts + f t := by
  induction ts with
  | nil => exact Nat.add_comm _ _
  | cons u ts ih =>
    rw [List.cons_append, total_cons, ih, total_cons]
    omega

/-- Entries with the same shares. -/
theorem total_congr {g : τ → Nat} (h : ∀ t ∈ ts, g t = f t) : total g ts = total f ts := by
  induction ts with
  | nil => rfl
  | cons t ts ih =>
    rw [total_cons, total_cons, h t List.mem_cons_self,
      ih fun u hu => h u (List.mem_cons_of_mem _ hu)]

/-- An entry is replaced. -/
theorem total_set (h : ts[i]? = some t) : total f (ts.set i t') + f t = total f ts + f t' := by
  induction ts generalizing i with
  | nil => cases h
  | cons u ts ih =>
    cases i with
    | zero =>
      cases h
      simp only [List.set_cons_zero, total_cons]
      omega
    | succ i =>
      have hrest := ih h
      simp only [List.set_cons_succ, total_cons]
      omega

/-- An entry is removed. -/
theorem total_eraseIdx (h : ts[i]? = some t) : total f (ts.eraseIdx i) + f t = total f ts := by
  induction ts generalizing i with
  | nil => cases h
  | cons u ts ih =>
    cases i with
    | zero =>
      cases h
      simp only [List.eraseIdx_cons_zero, total_cons]
      omega
    | succ i =>
      have hrest := ih h
      simp only [List.eraseIdx_cons_succ, total_cons]
      omega

/-- The share of one number below `n` is another. -/
theorem total_range {f g : Nat → Nat} {n a : Nat} (ha : a < n) (hsame : ∀ b, b ≠ a → g b = f b) :
    total g (List.range n) + f a = total f (List.range n) + g a := by
  induction n with
  | zero => cases ha
  | succ n ih =>
    rw [List.range_succ, total_concat, total_concat]
    by_cases han : a = n
    · subst han
      have hbelow : total g (List.range a) = total f (List.range a) :=
        total_congr fun b hb => hsame b (Nat.ne_of_lt (List.mem_range.mp hb))
      omega
    · have hrest := ih (by omega)
      rw [hsame n (Ne.symm han)]
      omega

/-- Entries without a share add up to nothing. -/
theorem total_eq_zero (h : ∀ t ∈ ts, f t = 0) : total f ts = 0 := by
  induction ts with
  | nil => rfl
  | cons t ts ih =>
    rw [total_cons, h t List.mem_cons_self, ih fun u hu => h u (List.mem_cons_of_mem _ hu)]

/-- Where every entry has a share, only the empty pool counts for nothing. -/
theorem total_eq_zero_iff (hpos : ∀ t, 0 < f t) : total f ts = 0 ↔ ts = [] := by
  cases ts with
  | nil => simp
  | cons t ts =>
    have ht := hpos t
    simp only [total_cons, reduceCtorEq, iff_false]
    omega

end Total

/-! ## What the tasks of a pool did

A log records what each task did under the task's index. When every task did exactly what its entry
asks for, the log as a whole is a permutation of what the pool asks for. -/

section Log

variable {β : Type*}

/-- What task `i` did, in a log of indexed entries. -/
def doneBy (i : Nat) (log : List (Nat × β)) : List β :=
  log.filterMap fun e => if e.1 = i then some e.2 else none

/-- What a task did in two logs, one after the other. -/
theorem doneBy_append (i : Nat) (log log' : List (Nat × β)) :
    doneBy i (log ++ log') = doneBy i log ++ doneBy i log' :=
  List.filterMap_append

/-- What a task did in a log of entries of its own. -/
theorem doneBy_map_self (i : Nat) (xs : List β) : doneBy i (xs.map (i, ·)) = xs := by
  induction xs with
  | nil => rfl
  | cons x xs ih =>
    calc doneBy i ((i, x) :: xs.map (i, ·))
        = x :: doneBy i (xs.map (i, ·)) := by simp [doneBy]
      _ = x :: xs := by rw [ih]

/-- What a task did in a log of entries of another. -/
theorem doneBy_map_of_ne {i k : Nat} (h : k ≠ i) (xs : List β) :
    doneBy i (xs.map (k, ·)) = [] := by
  simp [doneBy, h]

/-- A log in which no task did anything is empty. -/
theorem eq_nil_of_doneBy {log : List (Nat × β)} (h : ∀ i, doneBy i log = []) : log = [] := by
  cases log with
  | nil => rfl
  | cons e log =>
    have he := h e.1
    simp [doneBy] at he

/-- What task `i` did is what the entries under its index say. -/
theorem map_snd_filter (i : Nat) (log : List (Nat × β)) :
    (log.filter (·.1 = i)).map Prod.snd = doneBy i log := by
  induction log with
  | nil => rfl
  | cons e log ih =>
    by_cases he : e.1 = i
    · simpa [doneBy, List.filter_cons, he] using ih
    · simpa [doneBy, List.filter_cons, he] using ih

/-- Without the entries of task `k`, the others did what they did. -/
theorem doneBy_filter_ne (i k : Nat) (log : List (Nat × β)) :
    doneBy i (log.filter (·.1 ≠ k)) = if i = k then [] else doneBy i log := by
  induction log with
  | nil => simp [doneBy]
  | cons e log ih =>
    -- the entry is dropped when it is of task `k`; then it counts for no other task
    by_cases hk : e.1 = k
    · rw [List.filter_cons_of_neg (by simpa using hk), ih]
      split
      · rfl
      · rename_i hik
        have hei : e.1 ≠ i := fun h => hik (h.symm.trans hk)
        simp [doneBy, hei]
    · rw [List.filter_cons_of_pos (by simpa using hk)]
      by_cases hei : e.1 = i
      · have hik : i ≠ k := fun h => hk (hei.trans h)
        simp only [hik, if_false] at ih ⊢
        simpa [doneBy, hei] using ih
      · simpa [doneBy, hei] using ih

/-- **The log of a pool.** When every task of the pool did exactly what its entry asks for, and
nobody else did anything, the log is a permutation of what the pool asks for. -/
theorem perm_of_doneBy {f : τ → Option β} {ts : List τ} {log : List (Nat × β)}
    (h : ∀ i, doneBy i log = (ts[i]?.bind f).toList) :
    (log.map Prod.snd).Perm (ts.filterMap f) := by
  -- from the end of the pool, so that the indices of the tasks left do not move
  induction ts using List.reverseRecOn generalizing log with
  | nil =>
    have hnil : log = [] := eq_nil_of_doneBy fun i => by simpa using h i
    rw [hnil]
    exact .refl _
  | append_singleton ts t ih =>
    -- the entries of the last task apart from those of the others
    have hsplit : (log.filter (·.1 ≠ ts.length) ++ log.filter (·.1 = ts.length)).Perm log := by
      simpa using List.filter_append_perm (fun e : Nat × β => decide (e.1 ≠ ts.length)) log
    have hlast : (log.filter (·.1 = ts.length)).map Prod.snd = (f t).toList := by
      rw [map_snd_filter, h]
      simp
    have hothers : ((log.filter (·.1 ≠ ts.length)).map Prod.snd).Perm (ts.filterMap f) := by
      refine ih fun i => ?_
      rw [doneBy_filter_ne]
      split
      · rename_i hi
        simp [hi]
      · rename_i hi
        rw [h]
        rcases Nat.lt_or_ge i ts.length with hlt | hge
        · rw [List.getElem?_append_left hlt]
        · rw [List.getElem?_eq_none (by simp; omega), List.getElem?_eq_none hge]
    refine (hsplit.map Prod.snd).symm.trans ?_
    rw [List.map_append, hlast, List.filterMap_append]
    refine hothers.append ?_
    cases hf : f t <;> simp [hf]

end Log

end Transition
