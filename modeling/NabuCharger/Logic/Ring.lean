import Mathlib.Data.List.SplitBy
import Mathlib.Data.List.DropRight

/-!
# `Logic.Ring`: a ring of the last entries, and the runs of a list

A log of fixed size keeps its entries in a ring: `slots` holds them, and `next` is the slot
the next entry goes to. `Window size slots next l` says that the ring is what the history `l`
leaves behind. An entry keeps it (`Window.put`), and reading the ring round from `next` gives
the last `size` entries of the history, in order (`Window.entries`).

The second half is about the runs of a list, the longest stretches on which a predicate holds
(`runs`). A program that follows them one entry at a time knows the run that is open at the end
(`openRun`) and, as they end, the closed ones with the entries that closed them (`closedRuns`).
Those are all the runs there are (`runs_eq`).
-/

set_option autoImplicit false

namespace Effectful

variable {α : Type*}

/-! ### The ring -/

/-- The slots with an entry put into one of them. -/
def putSlot (slots : Nat → Option α) (next : Nat) (x : α) : Nat → Option α :=
  fun i => if i = next then some x else slots i

/-- The ring after the history `l`: round from `next` there are first the slots that were never
written, then the last entries in order. -/
structure Window (size : Nat) (slots : Nat → Option α) (next : Nat) (l : List α) : Prop where
  next_eq : next = l.length % size
  slot : ∀ i < size, slots ((next + i) % size) =
    if l.length + i < size then none else l[l.length + i - size]?

/-- A list is what reading it index by index yields. -/
theorem filterMap_range_getElem? (l : List α) :
    (List.range l.length).filterMap (fun i => l[i]?) = l := by
  have hsome : (List.range l.length).map (fun i => l[i]?) = l.map some := by
    apply List.ext_getElem
    · simp
    · intro i h₁ h₂
      simp at h₁
      simp [h₁]
  have hid : (List.range l.length).filterMap (fun i => l[i]?) =
      ((List.range l.length).map (fun i => l[i]?)).filterMap id := by
    rw [List.filterMap_map]
    rfl
  rw [hid, hsome, List.filterMap_map]
  simp

namespace Window

variable {size next : Nat} {slots : Nat → Option α} {l : List α}

/-- Slots without an entry are a window of nothing. -/
theorem empty (size : Nat) : Window size (fun _ => (none : Option α)) 0 [] where
  next_eq := (Nat.zero_mod size).symm
  slot i hi := by
    have hlt : ([] : List α).length + i < size := by
      rw [List.length_nil]
      omega
    rw [if_pos hlt]

/-- The next slot is one of the ring. -/
theorem next_lt (h : Window size slots next l) (hsize : 0 < size) : next < size := by
  rw [h.next_eq]
  exact Nat.mod_lt _ hsize

/-- The slots round from the one behind `next` are the slots round from `next`, one further,
with `next` itself as the last. -/
theorem put (h : Window size slots next l) (hsize : 0 < size) (x : α) :
    Window size (putSlot slots next x) ((next + 1) % size) (l ++ [x]) where
  next_eq := by
    rw [h.next_eq, Nat.mod_add_mod, List.length_append, List.length_singleton]
  slot i hi := by
    have hnext := h.next_lt hsize
    have hlen : (l ++ [x]).length = l.length + 1 := by simp
    rw [Nat.mod_add_mod, hlen, Nat.add_assoc, Nat.add_comm 1 i, putSlot]
    rcases Nat.lt_or_ge (i + 1) size with hlt | hge
    · -- an older entry: it was one slot further round
      have hother : (next + (i + 1)) % size ≠ next := by
        intro heq
        rcases Nat.lt_or_ge (next + (i + 1)) size with hin | hout
        · rw [Nat.mod_eq_of_lt hin] at heq
          omega
        · rw [Nat.mod_eq_sub_mod hout, Nat.mod_eq_of_lt (by omega)] at heq
          omega
      rw [if_neg hother, h.slot (i + 1) hlt]
      rcases Nat.lt_or_ge (l.length + (i + 1)) size with hfresh | hold
      · rw [if_pos hfresh, if_pos (by omega)]
      · rw [if_neg (by omega), if_neg (by omega), List.getElem?_append_left (by omega)]
        congr 1
        omega
    · -- the last one round is the entry just put
      have hend : i + 1 = size := by omega
      rw [hend, Nat.add_mod_right, Nat.mod_eq_of_lt hnext, if_pos rfl, if_neg (by omega)]
      have hindex : l.length + 1 + i - size = l.length := by omega
      rw [hindex, List.getElem?_append_right (Nat.le_refl _), Nat.sub_self]
      rfl

/-- Going round from `next`, the ring yields the last `size` entries in order. -/
theorem entries (h : Window size slots next l) :
    (List.range size).filterMap (fun i => slots ((next + i) % size)) =
      l.drop (l.length - size) := by
  -- first the slots that were never written, then one slot for each entry
  have hsplit : size = (size - l.length) + min l.length size := by omega
  have hfresh : (List.range (size - l.length)).filterMap (fun i => slots ((next + i) % size))
      = [] := by
    rw [List.filterMap_eq_nil_iff]
    intro i hi
    rw [List.mem_range] at hi
    rw [h.slot i (by omega), if_pos (by omega)]
  have hrest : ((List.range (min l.length size)).map (size - l.length + ·)).filterMap
      (fun i => slots ((next + i) % size)) = l.drop (l.length - size) := by
    rw [List.filterMap_map]
    have hsome : ∀ i ∈ List.range (min l.length size),
        ((fun i => slots ((next + i) % size)) ∘ (size - l.length + ·)) i
          = (l.drop (l.length - size))[i]? := by
      intro i hi
      rw [List.mem_range] at hi
      show slots ((next + (size - l.length + i)) % size) = _
      rw [h.slot _ (by omega), if_neg (by omega), List.getElem?_drop]
      congr 1
      omega
    rw [List.filterMap_congr hsome]
    have hlen : (l.drop (l.length - size)).length = min l.length size := by
      rw [List.length_drop]
      omega
    rw [← hlen]
    exact filterMap_range_getElem? _
  calc (List.range size).filterMap (fun i => slots ((next + i) % size))
      = (List.range ((size - l.length) + min l.length size)).filterMap
          (fun i => slots ((next + i) % size)) := by rw [← hsplit]
    _ = l.drop (l.length - size) := by
        rw [List.range_add, List.filterMap_append, hfresh, hrest, List.nil_append]

/-- The slot before `next` holds the last entry. -/
theorem last (h : Window size slots next l) (hsize : 0 < size) :
    slots (if next = 0 then size - 1 else next - 1) = l.getLast? := by
  have hnext := h.next_lt hsize
  have hslot := h.slot (size - 1) (by omega)
  -- one step back is `size - 1` steps round
  have hback : (next + (size - 1)) % size = if next = 0 then size - 1 else next - 1 := by
    split
    · next hzero => rw [hzero, Nat.zero_add, Nat.mod_eq_of_lt (by omega)]
    · next hpos => rw [Nat.mod_eq_sub_mod (by omega), Nat.mod_eq_of_lt (by omega)]; omega
  rw [← hback, hslot, List.getLast?_eq_getElem?]
  split
  · next hfresh =>
      have hnil : l.length = 0 := by omega
      rw [List.length_eq_zero_iff] at hnil
      subst hnil
      rfl
  · congr 1
    omega

end Window

/-! ### The runs of a list -/

variable {p : α → Bool} {l : List α} {x : α}

/-- The longest stretches of `l` on which `p` does not change. -/
def groups (p : α → Bool) (l : List α) : List (List α) := l.splitBy fun a b => p a == p b

/-- The longest stretches of `l` on which `p` holds. -/
def runs (p : α → Bool) (l : List α) : List (List α) := (groups p l).filter (·.all p)

/-- The run that the end of `l` leaves open, empty if there is none. -/
def openRun (p : α → Bool) (l : List α) : List α := l.rtakeWhile p

/-- The run that `x` closes behind `l`. -/
def closes (p : α → Bool) (l : List α) (x : α) : Option (List α × α) :=
  if p x = false ∧ openRun p l ≠ [] then some (openRun p l, x) else none

/-- The runs of `l` that are closed, each with the entry that closed it. -/
def closedRuns (p : α → Bool) (l : List α) : List (List α × α) :=
  (List.range l.length).filterMap fun i => l[i]?.bind (closes p (l.take i))

/-- Nothing is open at the start. -/
@[simp] theorem openRun_nil : openRun p [] = [] := List.rtakeWhile_nil p

/-- A point with `p` goes on with the open run. -/
theorem openRun_concat_pos (h : p x = true) : openRun p (l ++ [x]) = openRun p l ++ [x] :=
  List.rtakeWhile_concat_pos p l x h

/-- A point without `p` ends it. -/
theorem openRun_concat_neg (h : p x = false) : openRun p (l ++ [x]) = [] :=
  List.rtakeWhile_concat_neg p l x (by simp [h])

/-- Nothing is closed at the start. -/
@[simp] theorem closedRuns_nil : closedRuns p [] = [] := rfl

/-- One more entry closes at most one run. -/
theorem closedRuns_concat :
    closedRuns p (l ++ [x]) = closedRuns p l ++ (closes p l x).toList := by
  have hfront : ∀ i ∈ List.range l.length,
      (l ++ [x])[i]?.bind (closes p ((l ++ [x]).take i)) = l[i]?.bind (closes p (l.take i)) := by
    intro i hi
    rw [List.mem_range] at hi
    rw [List.getElem?_append_left hi, List.take_append_of_le_length (by omega)]
  rw [closedRuns, List.length_append, List.length_singleton, List.range_succ,
    List.filterMap_append, List.filterMap_congr hfront]
  congr 1
  cases hx : closes p l x <;> simp [hx]

/-! The open run and the closed ones are all the runs there are. -/

/-- The entries at the end on which `p` is `b` are groups of their own. -/
theorem groups_split (p : α → Bool) (b : Bool) (l : List α) :
    groups p l = groups p (l.rdropWhile (p · == b)) ++ groups p (l.rtakeWhile (p · == b)) := by
  have hsplit := List.rdropWhile_append_rtakeWhile (p := (p · == b)) (l := l)
  conv_lhs => rw [← hsplit]
  apply List.splitBy_append
  intro y hy z hz
  -- what is left over does not end in `b`, and the end begins with it
  obtain ⟨hne, rfl⟩ := List.mem_getLast?_eq_getLast hy
  have hlast := List.rdropWhile_last_not (p · == b) l hne
  have hhead := List.mem_rtakeWhile_imp (List.mem_of_mem_head? hz)
  simp only [beq_iff_eq] at hlast hhead
  rw [beq_eq_false_iff_ne, hhead]
  exact hlast

/-- Points that are all alike are one group. -/
theorem groups_of_all {b : Bool} (hne : l ≠ []) (h : ∀ a ∈ l, p a = b) : groups p l = [l] := by
  apply List.splitBy_of_isChain hne
  apply List.Pairwise.isChain
  have hany : l.Pairwise fun _ _ => True := List.pairwise_of_forall fun _ _ => trivial
  apply hany.imp_of_mem
  intro a c ha hc _
  rw [beq_iff_eq, h a ha, h c hc]

/-- A run is open at the end exactly if it is the last one. -/
theorem runs_split (p : α → Bool) (l : List α) :
    runs p l = runs p (l.rdropWhile p) ++ (if openRun p l = [] then [] else [openRun p l]) := by
  have hp : (fun a => p a == true) = p := by
    funext a
    cases p a <;> rfl
  -- the last run is the suffix that satisfies the predicate
  have hgroups := groups_split p true l
  rw [hp] at hgroups
  rw [runs, hgroups, List.filter_append]
  congr 1
  split
  · next hnil =>
      rw [openRun] at hnil
      rw [hnil]
      rfl
  · next hne =>
      have hall : ∀ a ∈ openRun p l, p a = true := fun a ha => List.mem_rtakeWhile_imp ha
      have hone : groups p (l.rtakeWhile p) = [openRun p l] := groups_of_all hne hall
      rw [hone, List.filter_cons_of_pos]
      · rfl
      · rw [List.all_eq_true]
        exact hall

/-- An entry without `p` is in no run. -/
theorem runs_rdropWhile_not (p : α → Bool) (l : List α) :
    runs p l = runs p (l.rdropWhile (p · == false)) := by
  rw [runs, groups_split p false l, List.filter_append, runs]
  -- a trailing group that fails the predicate is no run
  have hnone : (groups p (l.rtakeWhile (p · == false))).filter (·.all p) = [] := by
    by_cases hnil : l.rtakeWhile (p · == false) = []
    · rw [hnil]
      rfl
    · have hall : ∀ a ∈ l.rtakeWhile (p · == false), p a = false := by
        intro a ha
        have hmem := List.mem_rtakeWhile_imp ha
        rwa [beq_iff_eq] at hmem
      rw [groups_of_all hnil hall, List.filter_cons_of_neg]
      · rfl
      · obtain ⟨a, ha⟩ := List.exists_mem_of_ne_nil _ hnil
        rw [List.all_eq_true]
        intro hcon
        have htrue := hcon a ha
        rw [hall a ha] at htrue
        exact absurd htrue (by simp)
  rw [hnone, List.append_nil]

/-- A point without `p` adds no run. -/
theorem runs_concat_neg (h : p x = false) : runs p (l ++ [x]) = runs p l := by
  rw [runs_rdropWhile_not p (l ++ [x]), runs_rdropWhile_not p l,
    List.rdropWhile_concat_pos _ _ _ (by simp [h])]

/-- The runs of a list are the closed ones and then the open one. -/
theorem runs_eq (p : α → Bool) (l : List α) :
    runs p l = (closedRuns p l).map Prod.fst ++
      (if openRun p l = [] then [] else [openRun p l]) := by
  rw [runs_split]
  congr 1
  induction l using List.reverseRecOn with
  | nil => rfl
  | append_singleton l x ih =>
      rw [closedRuns_concat, List.map_append, ← ih]
      -- the last element extends the open run, or closes it
      cases hx : p x with
      | true =>
          rw [List.rdropWhile_concat_pos _ _ _ hx, closes, if_neg (by simp [hx])]
          simp
      | false =>
          rw [List.rdropWhile_concat_neg _ _ _ (by simp [hx]), runs_concat_neg hx, runs_split,
            closes]
          congr 1
          by_cases hnil : openRun p l = []
          · simp [hnil]
          · simp [hnil, hx]

/-- All runs are closed, except for the open one. -/
theorem length_runs (p : α → Bool) (l : List α) :
    (runs p l).length = (closedRuns p l).length + (if openRun p l = [] then 0 else 1) := by
  rw [runs_eq, List.length_append, List.length_map]
  split <;> rfl

/-- There are no more runs than points. -/
theorem length_closedRuns_le (p : α → Bool) (l : List α) :
    (closedRuns p l).length ≤ l.length := by
  have hle := List.length_filterMap_le (fun i => l[i]?.bind (closes p (l.take i)))
    (List.range l.length)
  rwa [List.length_range] at hle

end Effectful
