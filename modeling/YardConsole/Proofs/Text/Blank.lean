import Mathlib.Data.List.DropRight
import YardConsole.Text.Blank

/-! # Blanks and trimmed texts -/

namespace YardConsole.Text

/-! ## What is no blank -/

theorem Ranges.has_of_apart {a b : Ranges} {c : Char}
    (hapart : ∀ r ∈ a, ∀ s ∈ b, r.2 < s.1 ∨ s.2 < r.1) (h : a.has c = true) : b.has c = false := by
  obtain ⟨⟨low, high⟩, hr, hin⟩ := List.any_eq_true.mp h
  rw [Ranges.has, List.any_eq_false]
  rintro ⟨low', high'⟩ hs hin'
  have hapart := hapart _ hr _ hs
  simp only [Bool.and_eq_true, decide_eq_true_eq] at hin hin' hapart
  omega

theorem toNat_of_isDigit {c : Char} (h : c.isDigit = true) : 48 ≤ c.toNat ∧ c.toNat ≤ 57 := by
  simpa [Char.isDigit, UInt32.le_iff_toNat_le] using h

theorem isBlank_of_visible {c : Char} (hlow : 32 < c.toNat) (hhigh : c.toNat < 128) :
    isBlank c = false := by
  have hascii : isAscii c = true := by
    simp only [isAscii, decide_eq_true_eq]
    omega
  have hspace : c ≠ ' ' := by
    rintro rfl
    exact absurd hlow (by decide)
  have hreturn : ¬ c ≤ '\r' := by
    intro hle
    have hcode : c.toNat ≤ 13 := hle
    omega
  simp [isBlank, hascii, hspace, hreturn]

theorem isBlank_of_asciiDigit {c : Char} (h : c.isDigit = true) : isBlank c = false := by
  obtain ⟨hlow, hhigh⟩ := toNat_of_isDigit h
  exact isBlank_of_visible (by omega) (by omega)

theorem forall_not_blank {cs : List Char} (h : cs.all (!isBlank ·) = true) :
    ∀ c ∈ cs, isBlank c = false := by
  simpa using h

/-! ## Trimmed texts -/

def Trimmed (cs : List Char) : Prop :=
  (∀ c ∈ cs.head?, isBlank c = false) ∧ ∀ c ∈ cs.getLast?, isBlank c = false

theorem trimEnd_eq_rdropWhile (cs : List Char) : trimEnd cs = cs.rdropWhile isBlank := rfl

theorem head_dropWhile (p : Char → Bool) (cs : List Char) :
    ∀ c ∈ (cs.dropWhile p).head?, p c = false := by
  intro c hc
  have h := List.head?_dropWhile_not p cs
  rw [Option.mem_def.mp hc] at h
  simpa using h

theorem dropWhile_of_head {p : Char → Bool} {cs : List Char} (h : ∀ c ∈ cs.head?, p c = false) :
    cs.dropWhile p = cs := by
  cases cs with
  | nil => rfl
  | cons c rest => exact List.dropWhile_cons_of_neg (by simp [h c (by simp)])

theorem head_trimStart (cs : List Char) : ∀ c ∈ (trimStart cs).head?, isBlank c = false :=
  head_dropWhile isBlank cs

theorem getLast_trimEnd (cs : List Char) : ∀ c ∈ (trimEnd cs).getLast?, isBlank c = false := by
  intro c hc
  rw [trimEnd, List.getLast?_reverse] at hc
  exact head_trimStart cs.reverse c hc

theorem head_trimEnd (cs : List Char) (c : Char) (hc : c ∈ (trimEnd cs).head?) : c ∈ cs.head? := by
  obtain ⟨rest, hrest⟩ := List.rdropWhile_prefix isBlank (l := cs)
  rw [← trimEnd_eq_rdropWhile] at hrest
  rw [← hrest, Option.mem_def, List.head?_append, Option.mem_def.mp hc]
  rfl

theorem trimmed_trimList (cs : List Char) : Trimmed (trimList cs) :=
  ⟨fun c hc => head_trimStart cs c (head_trimEnd _ c hc), getLast_trimEnd _⟩

theorem trimStart_of_head {cs : List Char} (h : ∀ c ∈ cs.head?, isBlank c = false) :
    trimStart cs = cs := dropWhile_of_head h

theorem trimEnd_append {cs : List Char} (h : ∀ c ∈ cs.getLast?, isBlank c = false)
    (ds : List Char) : trimEnd (cs ++ ds) = cs ++ trimEnd ds := by
  have hkept : cs.reverse.dropWhile isBlank = cs.reverse :=
    trimStart_of_head (by simpa [List.head?_reverse] using h)
  rw [trimEnd, trimEnd, List.reverse_append, List.dropWhile_append]
  split
  · rename_i hnone
    rw [hkept, List.isEmpty_iff.mp hnone, List.reverse_reverse, List.reverse_nil, List.append_nil]
  · rw [List.reverse_append, List.reverse_reverse]

theorem trimEnd_of_getLast {cs : List Char} (h : ∀ c ∈ cs.getLast?, isBlank c = false) :
    trimEnd cs = cs := by
  have happend := trimEnd_append h []
  rwa [List.append_nil, show trimEnd [] = [] from rfl, List.append_nil] at happend

theorem dropWhile_append_cons {p : Char → Bool} {c : Char} (hc : p c = false) (as bs : List Char) :
    (as ++ c :: bs).dropWhile p = as.dropWhile p ++ c :: bs := by
  rw [List.dropWhile_append]
  split
  · rename_i hnone
    rw [List.isEmpty_iff.mp hnone, List.dropWhile_cons_of_neg (by simp [hc]), List.nil_append]
  · rfl

theorem trimList_append_cons {c : Char} (hc : isBlank c = false) (as bs : List Char) :
    trimList (as ++ c :: bs) = trimStart as ++ c :: trimEnd bs := by
  have hlast : ∀ x ∈ (trimStart as ++ [c]).getLast?, isBlank x = false := by
    intro x hx
    rw [List.getLast?_concat, Option.mem_some_iff] at hx
    exact hx ▸ hc
  calc trimList (as ++ c :: bs)
      = trimEnd (trimStart as ++ c :: bs) := by
        rw [trimList, trimStart, dropWhile_append_cons hc, trimStart]
    _ = trimEnd (trimStart as ++ [c] ++ bs) := by rw [List.append_assoc, List.singleton_append]
    _ = trimStart as ++ [c] ++ trimEnd bs := trimEnd_append hlast bs
    _ = trimStart as ++ c :: trimEnd bs := by rw [List.append_assoc, List.singleton_append]

theorem trimEnd_of_blank {cs : List Char} (h : ∀ c ∈ cs, isBlank c = true) : trimEnd cs = [] := by
  rwa [trimEnd_eq_rdropWhile, List.rdropWhile_eq_nil_iff]

theorem trimEnd_append_of_ne {bs : List Char} (h : trimEnd bs ≠ []) (as : List Char) :
    trimEnd (as ++ bs) = as ++ trimEnd bs := by
  rw [trimEnd, ne_eq, List.reverse_eq_nil_iff] at h
  rw [trimEnd, trimEnd, List.reverse_append, List.dropWhile_append, if_neg (by simpa using h),
    List.reverse_append, List.reverse_reverse]

theorem exists_trimEnd (cs : List Char) :
    ∃ tail, cs = trimEnd cs ++ tail ∧ ∀ c ∈ tail, isBlank c = true :=
  ⟨cs.rtakeWhile isBlank, List.rdropWhile_append_rtakeWhile.symm,
    fun _ hc => List.mem_rtakeWhile_imp hc⟩

theorem exists_trimList (cs : List Char) : ∃ lead pad, cs = lead ++ trimList cs ++ pad ∧
    (∀ c ∈ lead, isBlank c = true) ∧ ∀ c ∈ pad, isBlank c = true := by
  obtain ⟨pad, hpad, hblank⟩ := exists_trimEnd (trimStart cs)
  refine ⟨cs.takeWhile isBlank, pad, ?_, fun c hc => List.mem_takeWhile_imp hc, hblank⟩
  rw [List.append_assoc, trimList, ← hpad, trimStart, List.takeWhile_append_dropWhile]

theorem trimList_of_trimmed {cs : List Char} (h : Trimmed cs) : trimList cs = cs := by
  rw [trimList, trimStart_of_head h.1, trimEnd_of_getLast h.2]

theorem trimmed_of_solid {cs : List Char} (h : ∀ c ∈ cs, isBlank c = false) : Trimmed cs :=
  ⟨fun c hc => h c (List.mem_of_mem_head? hc), fun c hc => h c (List.mem_of_getLast? hc)⟩

theorem trimList_of_solid {cs : List Char} (h : ∀ c ∈ cs, isBlank c = false) : trimList cs = cs :=
  trimList_of_trimmed (trimmed_of_solid h)

theorem trimmed_of_ends {a b : Char} (ha : isBlank a = false) (hb : isBlank b = false)
    (cs : List Char) : Trimmed (a :: (cs ++ [b])) := by
  constructor
  · intro c hc
    obtain rfl : a = c := by simpa using hc
    exact ha
  · intro c hc
    rw [← List.cons_append, List.getLast?_concat, Option.mem_some_iff] at hc
    exact hc ▸ hb

theorem trimList_trimList (cs : List Char) : trimList (trimList cs) = trimList cs :=
  trimList_of_trimmed (trimmed_trimList cs)

theorem trimStart_trimList (cs : List Char) : trimStart (trimList cs) = trimList cs :=
  trimStart_of_head (trimmed_trimList cs).1

@[simp] theorem toList_trim (s : String) : (trim s).toList = trimList s.toList := by
  rw [trim, String.toList_ofList]

@[simp] theorem trim_trim (s : String) : trim (trim s) = trim s := by
  rw [trim, toList_trim, trimList_trimList, trim]

theorem trimList_eq_nil_iff (cs : List Char) : trimList cs = [] ↔ ∀ c ∈ cs, isBlank c = true := by
  rw [trimList, trimEnd_eq_rdropWhile, List.rdropWhile_eq_nil_iff]
  constructor
  · intro h c hc
    rw [← List.takeWhile_append_dropWhile (p := isBlank) (l := cs), List.mem_append] at hc
    rcases hc with hc | hc
    · exact List.mem_takeWhile_imp hc
    · exact h c hc
  · intro h c hc
    exact h c (List.dropWhile_subset isBlank hc)

theorem trim_isEmpty (s : String) : (trim s).isEmpty = isBlankText s := by
  rw [Bool.eq_iff_iff, String.isEmpty_iff, ← String.toList_eq_nil_iff, toList_trim,
    trimList_eq_nil_iff, isBlankText, List.all_eq_true]

end YardConsole.Text
