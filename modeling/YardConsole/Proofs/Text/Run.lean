import YardConsole.Proofs.Text.Blank
import YardConsole.Text.Word

/-! # Runs: what stands alone in a text -/

namespace YardConsole.Text

/-- `run` stands in the text, all of it in `p`, and nothing in `p` stands beside it. -/
structure Alone (p : Char → Bool) (run cs : List Char) : Prop where
  nonempty : run ≠ []
  inside : ∀ c ∈ run, p c = true
  beside : ∃ before after, cs = before ++ run ++ after ∧ (∀ c ∈ before.getLast?, p c = false) ∧
    ∀ c ∈ after.head?, p c = false

/-! ## All the runs of a text -/

/-- Those are the runs of a text, in order: what stands beside and between them is not in `p`. -/
inductive Runs (p : Char → Bool) : List Char → List (List Char) → Prop
  | none {gap} (hgap : ∀ c ∈ gap, p c = false) : Runs p gap []
  | cons {gap run rest : List Char} {later} (hgap : ∀ c ∈ gap, p c = false) (hne : run ≠ [])
      (hrun : ∀ c ∈ run, p c = true) (hrest : ∀ c ∈ rest.head?, p c = false)
      (hlater : Runs p rest later) : Runs p (gap ++ run ++ rest) (run :: later)

section

variable {p : Char → Bool} {cs : List Char} {found : List (List Char)}

theorem runsFrom_gap {gap : List Char} (hgap : ∀ c ∈ gap, p c = false) (rest : List Char) :
    runsFrom p [] (gap ++ rest) = runsFrom p [] rest := by
  induction gap with
  | nil => rfl
  | cons c gap ih =>
    have hc : p c = false := hgap c (by simp)
    rw [List.cons_append, runsFrom, if_neg (by simp [hc]), if_pos (by rfl)]
    exact ih fun x hx => hgap x (by simp [hx])

theorem runsFrom_run {run : List Char} (hrun : ∀ c ∈ run, p c = true) (done rest : List Char) :
    runsFrom p done (run ++ rest) = runsFrom p (run.reverse ++ done) rest := by
  induction run generalizing done with
  | nil => rfl
  | cons c run ih =>
    rw [List.cons_append, runsFrom, if_pos (hrun c (by simp)),
      ih fun x hx => hrun x (by simp [hx])]
    simp

theorem runsFrom_stop {done rest : List Char} (hdone : done ≠ [])
    (hrest : ∀ c ∈ rest.head?, p c = false) :
    runsFrom p done rest = done.reverse :: runsFrom p [] rest := by
  have hsome : ¬ done.isEmpty = true := by simpa using hdone
  cases rest with
  | nil =>
    rw [runsFrom, if_neg hsome]
    rfl
  | cons c rest =>
    have hc : ¬ p c = true := by simp [hrest c (by simp)]
    rw [runsFrom, if_neg hc, if_neg hsome, runsFrom, if_neg hc, if_pos (by rfl)]

theorem runs_append {gap run rest : List Char} (hgap : ∀ c ∈ gap, p c = false) (hne : run ≠ [])
    (hrun : ∀ c ∈ run, p c = true) (hrest : ∀ c ∈ rest.head?, p c = false) :
    runs p (gap ++ run ++ rest) = run :: runs p rest := by
  rw [runs, runs, List.append_assoc, runsFrom_gap hgap, runsFrom_run hrun,
    runsFrom_stop (by simpa using hne) hrest]
  simp

theorem runs_append_cons {run : List Char} {c : Char} (hne : run ≠ [])
    (hrun : ∀ x ∈ run, p x = true) (hc : p c = false) (rest : List Char) :
    runs p (run ++ c :: rest) = run :: runs p rest := by
  have hgap : ∀ x ∈ [c], p x = false := by simpa using hc
  have hrest : runs p (c :: rest) = runs p rest := runsFrom_gap hgap rest
  rw [← hrest]
  exact runs_append (List.forall_mem_nil _) hne hrun (by simpa using hc)

namespace Runs

theorem runs_eq (h : Runs p cs found) : runs p cs = found := by
  induction h with
  | none hgap => simpa [runs, runsFrom] using runsFrom_gap hgap []
  | cons hgap hne hrun hrest _ ih => rw [runs_append hgap hne hrun hrest, ih]

theorem gap_append {gap : List Char} (hgap : ∀ c ∈ gap, p c = false) (h : Runs p cs found) :
    Runs p (gap ++ cs) found := by
  cases h with
  | none hmore => exact .none (by simpa [or_imp, forall_and] using ⟨hgap, hmore⟩)
  | cons hmore hne hrun hrest hlater =>
    rw [← List.append_assoc, ← List.append_assoc]
    exact .cons (by simpa [or_imp, forall_and] using ⟨hgap, hmore⟩) hne hrun hrest hlater

theorem run_append {run rest : List Char} {later : List (List Char)} (hne : run ≠ [])
    (hrun : ∀ c ∈ run, p c = true) (hrest : ∀ c ∈ rest.head?, p c = false)
    (hlater : Runs p rest later) : Runs p (run ++ rest) (run :: later) := by
  have hcons := Runs.cons (List.forall_mem_nil _) hne hrun hrest hlater
  exact hcons

theorem gap_cons {c : Char} (hc : p c = false) (h : Runs p cs found) : Runs p (c :: cs) found := by
  have hgap : ∀ x ∈ [c], p x = false := by simpa using hc
  exact h.gap_append hgap

theorem of_runsFrom {done : List Char} (hdone : ∀ c ∈ done, p c = true) (cs : List Char) :
    Runs p (done.reverse ++ cs) (runsFrom p done cs) := by
  induction cs generalizing done with
  | nil =>
    rw [runsFrom]
    split
    · rename_i hempty
      obtain rfl := List.isEmpty_iff.mp hempty
      exact .none (by simp)
    · rename_i hsome
      exact .run_append (by simpa using hsome) (by simpa using hdone) (by simp) (.none (by simp))
  | cons c cs ih =>
    rw [runsFrom]
    split
    · rename_i hc
      have hmore : ∀ x ∈ c :: done, p x = true := by simpa [hc] using hdone
      simpa using ih hmore
    · rename_i hc
      have hstop : ∀ x ∈ (c :: cs).head?, p x = false := by simpa using hc
      have hlater : Runs p (c :: cs) (runsFrom p [] cs) :=
        gap_cons (by simpa using hc) (@ih [] (by simp))
      split
      · rename_i hempty
        obtain rfl := List.isEmpty_iff.mp hempty
        exact hlater
      · rename_i hsome
        exact .run_append (by simpa using hsome) (by simpa using hdone) hstop hlater

theorem of_runs (p : Char → Bool) (cs : List Char) : Runs p cs (runs p cs) :=
  @of_runsFrom p [] (by simp) cs

theorem append {as bs : List Char} {first later : List (List Char)} (has : Runs p as first)
    (hlast : ∀ c ∈ as.getLast?, p c = false) (hbs : Runs p bs later) :
    Runs p (as ++ bs) (first ++ later) := by
  induction has with
  | none hgap => exact hbs.gap_append hgap
  | @cons gap run rest _ hgap hne hrun hrest _ ih =>
    cases rest with
    | nil =>
      -- The first part would end with a run.
      have hend : run.getLast hne ∈ (gap ++ run ++ []).getLast? := by
        simp [List.getLast?_append, List.getLast?_eq_some_getLast hne]
      have hout := hlast _ hend
      rw [hrun _ (List.getLast_mem hne)] at hout
      cases hout
    | cons c rest =>
      have hlater := ih fun x hx => hlast x (by simpa [List.getLast?_append] using hx)
      rw [List.append_assoc]
      exact .cons hgap hne hrun hrest hlater

theorem intercalate {gap : Char} (hgap : p gap = false) {words : List (List Char)}
    (hne : ∀ word ∈ words, word ≠ []) (hin : ∀ word ∈ words, ∀ c ∈ word, p c = true) :
    Runs p ([gap].intercalate words) words := by
  induction words with
  | nil => exact .none (by simp)
  | cons word words ih =>
    have hword := hin word (by simp)
    cases words with
    | nil =>
      have hend : Runs p [] [] := .none (by simp)
      simpa using run_append (hne word (by simp)) hword (by simp) hend
    | cons next words =>
      have hlater := ih (fun w hw => hne w (by simp [hw])) fun w hw => hin w (by simp [hw])
      rw [List.intercalate_cons_cons, List.append_assoc]
      exact run_append (hne word (by simp)) hword (by simpa using hgap) (hlater.gap_cons hgap)

end Runs

theorem runs_iff (p : Char → Bool) (cs : List Char) (found : List (List Char)) :
    Runs p cs found ↔ runs p cs = found := by
  refine ⟨Runs.runs_eq, ?_⟩
  rintro rfl
  exact .of_runs p cs

/-! ## Where runs stand -/

/-- `run` is all in `p` and stands between two texts that do not go on in `p`. -/
structure Between (p : Char → Bool) (before run after : List Char) : Prop where
  nonempty : run ≠ []
  inside : ∀ c ∈ run, p c = true
  left : ∀ c ∈ before.getLast?, p c = false
  right : ∀ c ∈ after.head?, p c = false

theorem alone_iff_between (run : List Char) :
    Alone p run cs ↔ ∃ before after, cs = before ++ run ++ after ∧ Between p before run after := by
  constructor
  · rintro ⟨hne, hrun, before, after, rfl, hleft, hright⟩
    exact ⟨before, after, rfl, hne, hrun, hleft, hright⟩
  · rintro ⟨before, after, rfl, hne, hrun, hleft, hright⟩
    exact ⟨hne, hrun, before, after, rfl, hleft, hright⟩

theorem Between.runs_eq {before run after : List Char} (h : Between p before run after) :
    runs p (before ++ run ++ after) = runs p before ++ run :: runs p after := by
  have hlater : Runs p (run ++ after) (run :: runs p after) :=
    .run_append h.nonempty h.inside h.right (.of_runs p after)
  rw [List.append_assoc]
  exact ((Runs.of_runs p before).append h.left hlater).runs_eq

theorem Between.alone_before_iff {before run after : List Char} (h : Between p before run after)
    (r : List Char) : Alone p r before ↔ ∃ b a, before ++ run ++ after = b ++ r ++ a ∧
      Between p b r a ∧ b.length < before.length := by
  rw [alone_iff_between]
  constructor
  · rintro ⟨b, a, rfl, hne, hrun, hleft, hright⟩
    refine ⟨b, a ++ run ++ after, by simp, ⟨hne, hrun, hleft, ?_⟩, ?_⟩
    · cases a with
      | nil =>
        -- The two runs would touch.
        have hout := h.left (r.getLast hne) (by
          simp [List.getLast?_append, List.getLast?_eq_some_getLast hne])
        rw [hrun _ (List.getLast_mem hne)] at hout
        cases hout
      | cons c a => exact hright
    · have hlong := List.length_pos_iff.mpr hne
      simp only [List.length_append]
      omega
  · rintro ⟨b, a, htext, ⟨hne, hrun, hleft, hright⟩, hshort⟩
    rw [List.append_assoc, List.append_assoc, List.append_eq_append_iff] at htext
    rcases htext with ⟨x, rfl, -⟩ | ⟨x, rfl, htail⟩
    · rw [List.length_append] at hshort
      omega
    · have hx : x ≠ [] := by
        rintro rfl
        simp at hshort
      have hlast : p (x.getLast hx) = false := h.left _ (by
        simp [List.getLast?_append, List.getLast?_eq_some_getLast hx])
      rcases List.append_eq_append_iff.mp htail with ⟨y, rfl, rfl⟩ | ⟨y, rfl, -⟩
      · refine ⟨b, y, by simp, hne, hrun, hleft, fun c hc => hright c ?_⟩
        simp [List.head?_append, Option.mem_def.mp hc]
      · rw [hrun _ (by simp)] at hlast
        cases hlast

theorem Runs.split {earlier later : List (List Char)} {run : List Char}
    (h : Runs p cs (earlier ++ run :: later)) : ∃ before after, cs = before ++ run ++ after ∧
      Between p before run after ∧ runs p before = earlier := by
  induction earlier generalizing cs with
  | nil =>
    rcases h with _ | @⟨gap, _, rest, _, hgap, hne, hrun, hrest, -⟩
    exact ⟨gap, rest, rfl, ⟨hne, hrun, fun c hc => hgap c (List.mem_of_getLast? hc), hrest⟩,
      (Runs.none hgap).runs_eq⟩
  | cons r earlier ih =>
    rcases h with _ | @⟨gap, _, rest, _, hgap, hne, hrun, hrest, hlater⟩
    obtain ⟨before, after, rfl, hbetween, hruns⟩ := ih hlater
    cases before with
    | nil =>
      -- The two runs would touch.
      have hhead := hrest (run.head hbetween.nonempty) (by
        simp [List.head?_append, List.head?_eq_some_head hbetween.nonempty])
      rw [hbetween.inside _ (List.head_mem _)] at hhead
      cases hhead
    | cons c before =>
      refine ⟨gap ++ r ++ (c :: before), after, by simp, ⟨hbetween.nonempty, hbetween.inside,
        fun x hx => hbetween.left x ?_, hbetween.right⟩, ?_⟩
      · simpa [List.getLast?_append] using hx
      · have hstop : ∀ x ∈ (c :: before).head?, p x = false := hrest
        rw [runs_append hgap hne hrun hstop, hruns]

theorem mem_runs_iff (run : List Char) : run ∈ runs p cs ↔ Alone p run cs := by
  rw [alone_iff_between]
  constructor
  · intro h
    obtain ⟨earlier, later, hruns⟩ := List.append_of_mem h
    obtain ⟨before, after, htext, hbetween, -⟩ := Runs.split ((runs_iff _ _ _).mpr hruns)
    exact ⟨before, after, htext, hbetween⟩
  · rintro ⟨before, after, rfl, hbetween⟩
    rw [hbetween.runs_eq]
    simp

end

/-! ## Numbers -/

theorem isBlank_of_isDigit {c : Char} (h : isDigit c = true) : isBlank c = false := by
  unfold isDigit at h
  split at h
  · exact isBlank_of_asciiDigit h
  · rename_i hascii
    rw [isBlank, if_neg hascii]
    exact Ranges.has_of_apart (by decide) h

theorem alone_of_firstNumber {cs number : List Char} (h : firstNumber cs = some number) :
    Alone isWordChar number cs ∧ ∀ c ∈ number, isDigit c = true := by
  refine ⟨(mem_runs_iff _).mp (List.mem_of_find?_eq_some h), ?_⟩
  have hdigits := List.find?_some h
  simpa using hdigits

end YardConsole.Text
