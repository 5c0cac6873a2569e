import Fsfw.Pus.ScheduleFilters

/-!
# Shifting the selected telecommands

The loop that shifts the telecommands in a window erases an entry and inserts it again with a
later key.  When the new key is behind the one of the next entry in the window, but not behind
the window, the entry comes to lie ahead of the loop, which then shifts it once more.  So
every entry is shifted exactly once when this never happens and no key overflows, and not
otherwise (`shiftsExactly_iff`).  In any case the loop comes to an end
(`timeshiftLoop_terminates`).
-/

open Multimap

namespace Service11TelecommandScheduling

/-- An entry with the given key is not put back ahead of the loop: its new key comes before
the `next` one in the window, or behind the first one that `stop`s the loop. -/
def Clear (relativeTime : UInt32) (stop : Option UInt32) (key next : UInt32) : Prop :=
  key.toNat + relativeTime.toNat < next.toNat ∨
  ∃ last ∈ stop, last.toNat ≤ key.toNat + relativeTime.toNat

/-- The first key behind a range. -/
def stopKey (R : Range UInt32 TelecommandStruct) : Option UInt32 :=
  R.after.head?.map Prod.fst

/-- The entries of the range are not put back into it. -/
def AllClear (relativeTime : UInt32) (stop : Option UInt32)
    (within : List (UInt32 × TelecommandStruct)) : Prop :=
  within.IsChain fun entry next => Clear relativeTime stop entry.1 next.1

theorem allClear_cons {relativeTime : UInt32} {stop : Option UInt32}
    {entry : UInt32 × TelecommandStruct} {rest : List (UInt32 × TelecommandStruct)} :
  AllClear relativeTime stop (entry :: rest) ↔
    (∀ next ∈ rest.head?, Clear relativeTime stop entry.1 next.1) ∧
    AllClear relativeTime stop rest
  := by
  cases rest with
  | nil => simp [AllClear]
  | cons next rest => simp [AllClear]

/-- The sum of the keys. -/
def sumKeys (entries : List (UInt32 × TelecommandStruct)) : ℕ :=
  (entries.map fun entry => entry.1.toNat).sum

/-- How far the keys are from their overflow. -/
def slack (entries : List (UInt32 × TelecommandStruct)) : ℕ :=
  (entries.map fun entry => 2 ^ 32 - entry.1.toNat).sum

theorem sumKeys_cons (entry : UInt32 × TelecommandStruct)
    (entries : List (UInt32 × TelecommandStruct)) :
  sumKeys (entry :: entries) = entry.1.toNat + sumKeys entries
  := List.sum_cons

theorem sumKeys_insertEntry (entry : UInt32 × TelecommandStruct)
    (entries : List (UInt32 × TelecommandStruct)) :
  sumKeys (insertEntry entry entries) = entry.1.toNat + sumKeys entries
  := ((perm_insertEntry entry entries).map _).sum_eq

theorem slack_cons (entry : UInt32 × TelecommandStruct)
    (entries : List (UInt32 × TelecommandStruct)) :
  slack (entry :: entries) = 2 ^ 32 - entry.1.toNat + slack entries
  := List.sum_cons

theorem slack_insertEntry (entry : UInt32 × TelecommandStruct)
    (entries : List (UInt32 × TelecommandStruct)) :
  slack (insertEntry entry entries) = 2 ^ 32 - entry.1.toNat + slack entries
  := ((perm_insertEntry entry entries).map _).sum_eq

section

variable {relativeTime key : UInt32}

/-- A key that does not overflow. -/
theorem toNat_add_of_lt (h : key.toNat + relativeTime.toNat < 2 ^ 32) :
  (key + relativeTime).toNat = key.toNat + relativeTime.toNat
  := by
  rw [UInt32.toNat_add, Nat.mod_eq_of_lt h]

/-- A key that overflows is smaller than the shift, and than it was before. -/
theorem toNat_add_of_ge (h : 2 ^ 32 ≤ key.toNat + relativeTime.toNat) :
  (key + relativeTime).toNat < relativeTime.toNat ∧ (key + relativeTime).toNat < key.toNat
  := by
  have hkey := key.toNat_lt
  have hshift := relativeTime.toNat_lt
  rw [UInt32.toNat_add, Nat.mod_eq_sub_mod h, Nat.mod_eq_of_lt (by omega)]
  omega

end

/-! ### One round of the loop -/

/-- What becomes of the first entry of a range when it is shifted: it leaves the range, or it
stays in it because it is put back ahead of the loop. -/
inductive Shifted (relativeTime : UInt32) (R R' : Range UInt32 TelecommandStruct)
    (entry : UInt32 × TelecommandStruct) (rest : List (UInt32 × TelecommandStruct)) : Prop where
  | leaves
      (hclear : entry.1.toNat + relativeTime.toNat < 2 ^ 32 →
        ∀ next ∈ rest.head?, Clear relativeTime (stopKey R) entry.1 next.1)
      (hwithin : R'.within = rest) (hstop : stopKey R' = stopKey R)
      (houtside : List.Perm R'.outside ((entry.1 + relativeTime, entry.2) :: R.outside))
  | stays
      (hlt : entry.1.toNat + relativeTime.toNat < 2 ^ 32)
      (hclear : ∃ next ∈ rest.head?, ¬ Clear relativeTime (stopKey R) entry.1 next.1)
      (hwithin : R'.within = insertEntry (entry.1 + relativeTime, entry.2) rest)
      (hstop : stopKey R' = stopKey R) (houtside : R'.outside = R.outside)

/-- A round of the loop. -/
theorem shifted_of_cons (relativeTime : UInt32) {R : Range UInt32 TelecommandStruct}
    {entry : UInt32 × TelecommandStruct} {rest : List (UInt32 × TelecommandStruct)}
    (h : R.within = entry :: rest) :
  ∃ R', Shifted relativeTime R R' entry rest ∧ ∀ rounds count,
    timeshiftLoop relativeTime (rounds + 1) R count =
      timeshiftLoop relativeTime rounds R' (count + 1)
  := by
  obtain ⟨R₁, hpop, hbefore, hwithin, hafter⟩ := Range.pop_eq_some h
  use R₁.insert (entry.1 + relativeTime, entry.2)
  constructor
  · rcases Range.insert_cases R₁ (entry.1 + relativeTime, entry.2) with
      ⟨habove, hb, hw, ha⟩ | ⟨habove, ⟨next, hnext, hle⟩, hb, hw, ha⟩ |
        ⟨⟨last, hlast, hle⟩, hb, hw, ha, hhead⟩
    · apply Shifted.leaves
      · intro hlt next hnext
        left
        rw [← toNat_add_of_lt hlt, ← UInt32.lt_iff_toNat_lt]
        rw [hwithin] at habove
        apply habove next hnext
      · rw [hw, hwithin]
      · rw [stopKey, stopKey, ha, hafter]
      · rw [Range.outside, Range.outside, hb, ha, hbefore, hafter]
        apply (perm_insertEntry _ R.before).append_right
    · rw [hwithin] at hnext
      rw [hafter] at habove
      obtain ⟨rest', rfl⟩ := List.head?_eq_some_iff.mp hnext
      have hsorted : entry.1.toNat ≤ next.1.toNat := by
        have hpairwise := (List.pairwise_append.mp R.sorted).2.1
        rw [h] at hpairwise
        apply UInt32.le_iff_toNat_le.mp
        apply (List.pairwise_cons.mp hpairwise).1 next List.mem_cons_self
      have hle' : next.1.toNat ≤ (entry.1 + relativeTime).toNat := UInt32.le_iff_toNat_le.mp hle
      -- An entry that overflows would come before the rest of the range.
      have hlt : entry.1.toNat + relativeTime.toNat < 2 ^ 32 := by
        by_contra hge
        have hwrap := (toNat_add_of_ge (Nat.not_lt.mp hge)).2
        omega
      rw [toNat_add_of_lt hlt] at hle'
      apply Shifted.stays hlt
      · refine ⟨next, hnext, ?_⟩
        rintro (hnext' | ⟨last, hlast, hlast'⟩)
        · omega
        · obtain ⟨z, hz, rfl⟩ := Option.mem_map.mp hlast
          have hlt' : (entry.1 + relativeTime).toNat < z.1.toNat :=
            UInt32.lt_iff_toNat_lt.mp (habove z hz)
          rw [toNat_add_of_lt hlt] at hlt'
          omega
      · rw [hw, hwithin]
      · rw [stopKey, stopKey, ha, hafter]
      · rw [Range.outside, Range.outside, hb, ha, hbefore, hafter]
    · apply Shifted.leaves
      · intro hlt next hnext
        right
        rw [← toNat_add_of_lt hlt, stopKey, ← hafter, Option.mem_def.mp hlast]
        exact ⟨last.1, rfl, UInt32.le_iff_toNat_le.mp hle⟩
      · rw [hw, hwithin]
      · rw [stopKey, stopKey, hhead, hafter]
      · rw [Range.outside, Range.outside, hb, ha, hbefore, hafter]
        apply ((perm_insertEntry _ R.after).append_left R.before).trans
        apply List.perm_middle
  · intro rounds count
    rw [timeshiftLoop, hpop]

/-! ### The whole loop -/

theorem timeshiftLoop_nil (relativeTime : UInt32) {R : Range UInt32 TelecommandStruct}
    (h : R.within = []) (rounds count : ℕ) :
  timeshiftLoop relativeTime (rounds + 1) R count = some (R, count)
  := by
  rw [timeshiftLoop, Range.pop_eq_none h]

/-- A round brings the entries of the range closer to their overflow, or takes one of them out
of the range. -/
theorem Shifted.slack_lt {relativeTime : UInt32} (hpos : 0 < relativeTime.toNat)
    {R R' : Range UInt32 TelecommandStruct} {entry : UInt32 × TelecommandStruct}
    {rest : List (UInt32 × TelecommandStruct)} (h : Shifted relativeTime R R' entry rest) :
  slack R'.within < slack (entry :: rest)
  := by
  have hkey := entry.1.toNat_lt
  rw [slack_cons]
  cases h with
  | leaves _ hwithin _ _ =>
      rw [hwithin]
      omega
  | stays hlt _ hwithin _ _ =>
      rw [hwithin, slack_insertEntry, toNat_add_of_lt hlt]
      omega

/-- The loop comes to an end. -/
theorem timeshiftLoop_terminates {relativeTime : UInt32} (hpos : 0 < relativeTime.toNat)
    (R : Range UInt32 TelecommandStruct) (count : ℕ) :
  ∃ rounds result, timeshiftLoop relativeTime rounds R count = some result
  := by
  induction hn : slack R.within using Nat.strong_induction_on generalizing R count with
  | h n ih =>
      cases hwithin : R.within with
      | nil =>
          exact ⟨1, _, timeshiftLoop_nil relativeTime hwithin 0 count⟩
      | cons entry rest =>
          obtain ⟨R', hshifted, hloop⟩ := shifted_of_cons relativeTime hwithin
          have hlt := hshifted.slack_lt hpos
          rw [← hwithin, hn] at hlt
          obtain ⟨rounds, result, hresult⟩ := ih _ hlt R' (count + 1) rfl
          exact ⟨rounds + 1, result, by rw [hloop, hresult]⟩

/-- An entry with its key as a number. -/
def natKey (entry : UInt32 × TelecommandStruct) : ℕ × TelecommandStruct :=
  (entry.1.toNat, entry.2)

/-- An entry with its key as a number, shifted without overflow. -/
def shiftKey (relativeTime : UInt32) (entry : UInt32 × TelecommandStruct) :
    ℕ × TelecommandStruct :=
  (entry.1.toNat + relativeTime.toNat, entry.2)

/-- Entries that are never put back ahead of the loop and do not overflow are shifted once. -/
theorem timeshiftLoop_of_clear {relativeTime : UInt32} {R : Range UInt32 TelecommandStruct}
    (hlt : ∀ entry ∈ R.within, entry.1.toNat + relativeTime.toNat < 2 ^ 32)
    (hclear : AllClear relativeTime (stopKey R) R.within) (count : ℕ) :
  ∃ R', timeshiftLoop relativeTime (R.within.length + 1) R count =
      some (R', count + R.within.length) ∧
    List.Perm (R'.toList.map natKey)
      (R.outside.map natKey ++ R.within.map (shiftKey relativeTime))
  := by
  induction hwithin : R.within generalizing R count with
  | nil =>
      refine ⟨R, timeshiftLoop_nil relativeTime hwithin 0 count, ?_⟩
      have hperm := R.perm_toList.map natKey
      rw [hwithin, List.append_nil] at hperm
      rw [List.map_nil, List.append_nil]
      apply hperm
  | cons entry rest ih =>
      rw [hwithin] at hlt hclear
      obtain ⟨hnext, hclear'⟩ := allClear_cons.mp hclear
      obtain ⟨R₁, hshifted, hloop⟩ := shifted_of_cons relativeTime hwithin
      cases hshifted with
      | leaves _ hrest hstop hperm =>
          obtain ⟨R', hloop', hperm'⟩ := ih (R := R₁)
            (by rw [hrest]; exact fun e he => hlt e (List.mem_cons_of_mem entry he))
            (by rw [hrest, hstop]; apply hclear') (count + 1) hrest
          refine ⟨R', ?_, ?_⟩
          · rw [List.length_cons, hloop, hloop', Nat.add_right_comm, Nat.add_assoc]
          · have hkey : natKey (entry.1 + relativeTime, entry.2) = shiftKey relativeTime entry := by
              rw [natKey, shiftKey, toNat_add_of_lt (hlt entry List.mem_cons_self)]
            apply hperm'.trans
            apply ((hperm.map natKey).append_right _).trans
            rw [List.map_cons, hkey, List.map_cons]
            apply List.perm_middle.symm
      | stays _ hnot _ _ _ =>
          obtain ⟨next, hmem, hnot⟩ := hnot
          exact absurd (hnext next hmem) hnot

/-- What the loop does in any case: it takes all entries out of the range. Unless an entry
overflows, the number of rounds is seen in the sum of the keys, and it is the number of
entries only if none of them is put back ahead of the loop. -/
theorem timeshiftLoop_spec {relativeTime : UInt32} {rounds : ℕ}
    {R R' : Range UInt32 TelecommandStruct} {count count' : ℕ}
    (h : timeshiftLoop relativeTime rounds R count = some (R', count')) :
  ∃ done n, List.Perm R'.toList (R.outside ++ done) ∧ R.within.length ≤ n ∧
    ((∃ entry ∈ done, entry.1.toNat < relativeTime.toNat) ∨
      sumKeys done = sumKeys R.within + n * relativeTime.toNat ∧
      (n = R.within.length → AllClear relativeTime (stopKey R) R.within))
  := by
  induction rounds generalizing R count with
  | zero =>
      cases h
  | succ rounds ih =>
      cases hwithin : R.within with
      | nil =>
          rw [timeshiftLoop_nil relativeTime hwithin] at h
          cases h
          have hperm := R'.perm_toList
          rw [hwithin] at hperm
          exact ⟨[], 0, hperm, Nat.le_refl 0, Or.inr ⟨by simp, fun _ => List.IsChain.nil⟩⟩
      | cons entry rest =>
          obtain ⟨R₁, hshifted, hloop⟩ := shifted_of_cons relativeTime hwithin
          rw [hloop] at h
          obtain ⟨done, n, hperm, hle, hdone⟩ := ih h
          cases hshifted with
          | leaves hclear hrest hstop houtside =>
              rw [hrest] at hle hdone
              rw [hstop] at hdone
              refine ⟨(entry.1 + relativeTime, entry.2) :: done, n + 1, ?_, ?_, ?_⟩
              · apply (hperm.trans (houtside.append_right done)).trans
                apply List.perm_middle.symm
              · apply Nat.succ_le_succ hle
              · by_cases hlt : entry.1.toNat + relativeTime.toNat < 2 ^ 32
                · rcases hdone with ⟨e, he, hsmall⟩ | ⟨hsum, hall⟩
                  · exact Or.inl ⟨e, List.mem_cons_of_mem _ he, hsmall⟩
                  · right
                    constructor
                    · rw [sumKeys_cons, sumKeys_cons, toNat_add_of_lt hlt, hsum, Nat.succ_mul]
                      omega
                    · intro hn
                      rw [List.length_cons, Nat.succ_inj] at hn
                      exact allClear_cons.mpr ⟨hclear hlt, hall hn⟩
                · left
                  refine ⟨_, List.mem_cons_self, ?_⟩
                  apply (toNat_add_of_ge (Nat.not_lt.mp hlt)).1
          | stays hlt hnot hrest hstop houtside =>
              rw [hrest] at hle hdone
              rw [(perm_insertEntry _ rest).length_eq, List.length_cons] at hle hdone
              refine ⟨done, n + 1, by rw [← houtside]; apply hperm, ?_, ?_⟩
              · rw [List.length_cons]
                omega
              · rcases hdone with hsmall | ⟨hsum, -⟩
                · left
                  apply hsmall
                · right
                  constructor
                  · rw [hsum, sumKeys_insertEntry, sumKeys_cons, toNat_add_of_lt hlt, Nat.succ_mul]
                    omega
                  · intro hn
                    rw [List.length_cons] at hn
                    omega

/-- The sum of the shifted keys. -/
theorem sum_shiftKey (relativeTime : UInt32) (entries : List (UInt32 × TelecommandStruct)) :
  ((entries.map (shiftKey relativeTime)).map Prod.fst).sum =
    sumKeys entries + entries.length * relativeTime.toNat
  := by
  induction entries with
  | nil =>
      simp [sumKeys]
  | cons entry entries ih =>
      rw [List.map_cons, List.map_cons, List.sum_cons, ih, sumKeys_cons, List.length_cons,
        Nat.succ_mul, shiftKey]
      omega

/-- If every entry of the range has been shifted once, then none has overflown, and none has
been put back ahead of the loop. -/
theorem allClear_of_timeshiftLoop {relativeTime : UInt32} (hpos : 0 < relativeTime.toNat)
    {rounds : ℕ} {R R' : Range UInt32 TelecommandStruct} {count count' : ℕ}
    (h : timeshiftLoop relativeTime rounds R count = some (R', count'))
    (hperm : List.Perm (R'.toList.map natKey)
      (R.outside.map natKey ++ R.within.map (shiftKey relativeTime))) :
  (∀ entry ∈ R.within, entry.1.toNat + relativeTime.toNat < 2 ^ 32) ∧
  AllClear relativeTime (stopKey R) R.within
  := by
  obtain ⟨done, n, hdone, hle, hcases⟩ := timeshiftLoop_spec h
  have hshift : List.Perm (done.map natKey) (R.within.map (shiftKey relativeTime)) := by
    have hdone' := hdone.map natKey
    rw [List.map_append] at hdone'
    apply (List.perm_append_left_iff _).mp (hdone'.symm.trans hperm)
  constructor
  · intro entry hentry
    obtain ⟨e, he, heq⟩ := List.mem_map.mp
      (hshift.mem_iff.mpr (List.mem_map_of_mem (f := shiftKey relativeTime) hentry))
    have hkey : e.1.toNat = entry.1.toNat + relativeTime.toNat := congrArg Prod.fst heq
    rw [← hkey]
    apply e.1.toNat_lt
  · rcases hcases with ⟨e, he, hsmall⟩ | ⟨hsum, hclear⟩
    · -- An entry that has overflown is too small to be one that has been shifted.
      obtain ⟨entry, -, heq⟩ := List.mem_map.mp
        (hshift.mem_iff.mp (List.mem_map_of_mem (f := natKey) he))
      have hkey : entry.1.toNat + relativeTime.toNat = e.1.toNat := congrArg Prod.fst heq
      omega
    · apply hclear
      have hsum' := (hshift.map Prod.fst).sum_eq
      rw [sum_shiftKey, List.map_map] at hsum'
      change sumKeys done = _ at hsum'
      rw [hsum, Nat.add_left_cancel_iff] at hsum'
      apply Nat.eq_of_mul_eq_mul_right hpos hsum'

/-! ### Shifting exactly once -/

/-- The first key behind a window. -/
def keyBehind (window : TimeWindow) (telecommandMap : TelecommandMap) : Option UInt32 :=
  (telecommandMap.entries.find? fun entry => window.Behind entry.1).map Prod.fst

/-- The service comes to an end, and the entries in the window, and no others, are shifted,
without overflow. -/
def ShiftsExactly (endKey : Option UInt32) (data : List UInt8) (relativeTime : UInt32)
    (window : TimeWindow) (telecommandMap : TelecommandMap) : Prop :=
  ∃ rounds status telecommandMap',
    doFilterTimeshiftActivity rounds endKey data telecommandMap =
      some (status, telecommandMap') ∧
    List.Perm (telecommandMap'.entries.map natKey)
      (telecommandMap.entries.map fun entry =>
        if window.Mem entry.1 then shiftKey relativeTime entry else natKey entry)

section

variable {window : TimeWindow} {R : Range UInt32 TelecommandStruct}

/-- The entries that are selected, in order. -/
theorem Selects.filter (h : Selects window R) :
  R.toList.filter (fun entry => window.Mem entry.1) = R.within
  := by
  have hbefore : R.before.filter (fun entry => window.Mem entry.1) = [] := by
    rw [List.filter_eq_nil_iff]
    intro entry hentry hmem
    apply (h.before entry hentry).1 (of_decide_eq_true hmem)
  have hwithin : R.within.filter (fun entry => window.Mem entry.1) = R.within := by
    rw [List.filter_eq_self]
    intro entry hentry
    apply decide_eq_true (h.within entry hentry).1
  have hafter : R.after.filter (fun entry => window.Mem entry.1) = [] := by
    rw [List.filter_eq_nil_iff]
    intro entry hentry hmem
    apply (h.after entry hentry).1 (of_decide_eq_true hmem)
  rw [Range.toList, List.filter_append, List.filter_append, hbefore, hwithin, hafter,
    List.append_nil, List.nil_append]

/-- The first key behind the window is the one that stops the loop. -/
theorem Selects.find?_eq (h : Selects window R) :
  (R.toList.find? fun entry => window.Behind entry.1).map Prod.fst = stopKey R
  := by
  have hbefore : R.before.find? (fun entry => window.Behind entry.1) = none := by
    rw [List.find?_eq_none]
    intro entry hentry hbehind
    apply (h.before entry hentry).2 (of_decide_eq_true hbehind)
  have hwithin : R.within.find? (fun entry => window.Behind entry.1) = none := by
    rw [List.find?_eq_none]
    intro entry hentry hbehind
    apply (h.within entry hentry).2 (of_decide_eq_true hbehind)
  rw [Range.toList, List.find?_append, List.find?_append, hbefore, hwithin, stopKey]
  cases hafter : R.after with
  | nil => rfl
  | cons last after =>
      have hbehind := (h.after last (by rw [hafter]; apply List.mem_cons_self)).2
      simp [hbehind]

/-- The schedule with the selected entries shifted. -/
theorem Selects.perm_shifted (h : Selects window R) (relativeTime : UInt32) :
  List.Perm
    (R.toList.map fun entry =>
      if window.Mem entry.1 then shiftKey relativeTime entry else natKey entry)
    (R.outside.map natKey ++ R.within.map (shiftKey relativeTime))
  := by
  apply (R.perm_toList.map _).trans
  rw [List.map_append]
  apply List.Perm.of_eq
  congr 1
  · apply List.map_congr_left
    intro entry hentry
    rw [if_neg]
    rcases List.mem_append.mp hentry with hentry | hentry
    · apply (h.before entry hentry).1
    · apply (h.after entry hentry).1
  · apply List.map_congr_left
    intro entry hentry
    rw [if_pos (h.within entry hentry).1]

/-- What the service answers is what the loop does. -/
theorem doFilterTimeshiftActivity_eq_some_iff {data data' : List UInt8} {relativeTime : UInt32}
    (htime : deSerialize32 data = .ok (relativeTime, data')) (hne : relativeTime ≠ 0)
    (hdata : readTimeWindow data' = .ok window) {endKey : Option UInt32}
    {telecommandMap : TelecommandMap} {it : Iterators}
    (hselect : selectWindow endKey telecommandMap window = some it) {rounds : ℕ}
    {status : ReturnValue} {telecommandMap' : TelecommandMap} :
  doFilterTimeshiftActivity rounds endKey data telecommandMap = some (status, telecommandMap') ↔
  ∃ R count, timeshiftLoop relativeTime rounds (Range.ofIterators telecommandMap it) 0 =
      some (R, count) ∧ status = (if count > 0 then .ok else .failed) ∧
    telecommandMap' = R.toMultimap
  := by
  simp only [doFilterTimeshiftActivity, getMapFilterFromData, htime, if_neg hne, hdata, hselect]
  cases timeshiftLoop relativeTime rounds (Range.ofIterators telecommandMap it) 0 with
  | none =>
      simp
  | some result =>
      obtain ⟨R, count⟩ := result
      simp only [Option.some.injEq, Prod.mk.injEq]
      constructor
      · intro h
        refine ⟨R, count, ⟨rfl, rfl⟩, ?_⟩
        split_ifs at h ⊢ with hcount
        · cases h
          exact ⟨rfl, rfl⟩
        · cases h
          exact ⟨rfl, rfl⟩
      · rintro ⟨R', count', ⟨rfl, rfl⟩, rfl, rfl⟩
        split_ifs <;> rfl

end

/-- A filter shifts what it selects exactly once, exactly when no key overflows, no selected
entry is put back ahead of the next one and before the end of the window, and no key is read
at the end of the schedule where that is undefined. -/
theorem shiftsExactly_iff {data data' : List UInt8} {relativeTime : UInt32} {window : TimeWindow}
    (htime : deSerialize32 data = .ok (relativeTime, data')) (hpos : 0 < relativeTime)
    (hdata : readTimeWindow data' = .ok window) (endKey : Option UInt32)
    (telecommandMap : TelecommandMap) :
  ShiftsExactly endKey data relativeTime window telecommandMap ↔
    ¬ (window.ReadsEnd telecommandMap ∧ endKey = none) ∧
    (∀ entry ∈ telecommandMap.entries, window.Mem entry.1 →
      entry.1.toNat + relativeTime.toNat < 2 ^ 32) ∧
    AllClear relativeTime (keyBehind window telecommandMap)
      (telecommandMap.entries.filter fun entry => window.Mem entry.1)
  := by
  have hwindow := wellFormed_of_readTimeWindow hdata
  have hne : relativeTime ≠ 0 := ne_of_gt hpos
  have hpos' : 0 < relativeTime.toNat := UInt32.lt_iff_toNat_lt.mp hpos
  cases hselect : selectWindow endKey telecommandMap window with
  | none =>
      have hend := readsEnd_of_selectWindow hwindow hselect
      constructor
      · rintro ⟨rounds, status, map', hshift, -⟩
        simp [doFilterTimeshiftActivity, getMapFilterFromData, htime, hne, hdata, hselect] at hshift
      · intro h
        exact absurd hend h.1
  | some it =>
      obtain ⟨hend, hselects⟩ := selects_of_selectWindow hwindow hselect
      have hfilter := hselects.filter
      have hstop := hselects.find?_eq
      have hexpected := hselects.perm_shifted relativeTime
      rw [Range.toList_ofIterators] at hfilter hstop hexpected
      have hmem : ∀ entry, entry ∈ (Range.ofIterators telecommandMap it).within ↔
          entry ∈ telecommandMap.entries ∧ window.Mem entry.1 := by
        intro entry
        rw [hselects.mem_within, Range.toList_ofIterators]
      rw [keyBehind, hstop, hfilter]
      constructor
      · rintro ⟨rounds, status, map', hshift, hperm⟩
        obtain ⟨R', count, hloop, -, rfl⟩ :=
          (doFilterTimeshiftActivity_eq_some_iff htime hne hdata hselect).mp hshift
        obtain ⟨hlt, hclear⟩ :=
          allClear_of_timeshiftLoop hpos' hloop (hperm.trans hexpected)
        exact ⟨hend, fun entry h h' => hlt entry ((hmem entry).mpr ⟨h, h'⟩), hclear⟩
      · rintro ⟨-, hlt, hclear⟩
        obtain ⟨R', hloop, hperm⟩ := timeshiftLoop_of_clear
          (fun entry hentry => hlt entry ((hmem entry).mp hentry).1 ((hmem entry).mp hentry).2)
          hclear 0
        exact ⟨_, _, R'.toMultimap,
          (doFilterTimeshiftActivity_eq_some_iff htime hne hdata hselect).mpr
            ⟨R', _, hloop, rfl, rfl⟩, hperm.trans hexpected.symm⟩

/-- Shifting the telecommands up to the time 2 by 3, which puts them behind the one at 4. -/
theorem shiftsExactly_iff_to :
  ShiftsExactly none [0, 0, 0, 3, 0, 0, 0, 3, 0, 0, 0, 2] 3 (.toTimetag 2) threeTcs
  := by
  apply (shiftsExactly_iff rfl (by decide) rfl none threeTcs).mpr
  refine ⟨?_, ?_, ?_⟩
  · rintro ⟨hall, -⟩
    have hle := hall (4, ⟨40, 4, ⟨0, 2⟩⟩) (by decide)
    revert hle
    decide
  · decide
  · apply List.IsChain.cons_cons _ (List.IsChain.singleton _)
    right
    exact ⟨4, rfl, by decide⟩

/-- Shifting the telecommands up to the time 2 by 1 shifts the one at 1 to 2, behind the one
that is there, and then once more. -/
theorem not_shiftsExactly_to :
  ¬ ShiftsExactly none [0, 0, 0, 1, 0, 0, 0, 3, 0, 0, 0, 2] 1 (.toTimetag 2) threeTcs
  := by
  rintro ⟨rounds, status, map', hshift, hperm⟩
  have htime : deSerialize32 [0, 0, 0, 1, 0, 0, 0, 3, 0, 0, 0, 2] =
      .ok (1, [0, 0, 0, 3, 0, 0, 0, 2]) := rfl
  have hdata : readTimeWindow [0, 0, 0, 3, 0, 0, 0, 2] = .ok (.toTimetag 2) := rfl
  have hselect : selectWindow none threeTcs (.toTimetag 2) = some ⟨0, 2, Nat.zero_le 2⟩ := rfl
  obtain ⟨R', count, hloop, -, rfl⟩ :=
    (doFilterTimeshiftActivity_eq_some_iff htime (by decide) hdata hselect).mp hshift
  obtain ⟨-, hselects⟩ := selects_of_selectWindow (wellFormed_of_readTimeWindow hdata) hselect
  obtain ⟨-, hclear⟩ := allClear_of_timeshiftLoop (by decide) hloop
    (hperm.trans (hselects.perm_shifted 1))
  rcases (allClear_cons.mp hclear).1 (2, ⟨20, 2, ⟨0, 1⟩⟩) rfl with hlt | ⟨last, hlast, hle⟩
  · revert hlt
    decide
  · cases hlast
    revert hle
    decide

end Service11TelecommandScheduling
