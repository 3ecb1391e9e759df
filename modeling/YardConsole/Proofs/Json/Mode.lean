import YardConsole.Proofs.Json.Value

/-! # Scanning texts: strings and brackets

A scanner that knows only whether it is in a string finds where a bracket closes. What is read in
brackets, and what is written there, ends where it does.
-/

namespace YardConsole.Json

/-! ## Modes -/

/-- Where a scanner is: outside strings, in one, or in one behind a backslash. -/
inductive Mode where
  | code
  | text
  | escape
deriving DecidableEq

def IsBare (c : Char) : Prop := c ≠ '"' ∧ c ≠ '\\'

namespace Mode

def next : Mode → Char → Mode
  | code, c => if c = '"' then text else code
  | text, c => if c = '"' then code else if c = '\\' then escape else text
  | escape, _ => text

theorem next_text {c : Char} (h : IsBare c) : next text c = text := by
  rw [next, if_neg h.1, if_neg h.2]

def after (m : Mode) (cs : List Char) : Mode := cs.foldl next m

@[simp] theorem after_nil (m : Mode) : m.after [] = m := rfl

@[simp] theorem after_cons (m : Mode) (c : Char) (cs : List Char) :
    m.after (c :: cs) = (m.next c).after cs := rfl

@[simp] theorem after_append (m : Mode) (cs ds : List Char) :
    m.after (cs ++ ds) = (m.after cs).after ds := List.foldl_append

end Mode

def InCode (p : Char → Prop) : Mode → List Char → Prop
  | _, [] => True
  | m, c :: cs => (m = .code → p c) ∧ InCode p (m.next c) cs

theorem inCode_text_cons (p : Char → Prop) (c : Char) (cs : List Char) :
    InCode p .text (c :: cs) ↔ InCode p (Mode.next .text c) cs := by
  simp [InCode]

theorem inCode_escape_cons (p : Char → Prop) (c : Char) (cs : List Char) :
    InCode p .escape (c :: cs) ↔ InCode p .text cs := by
  simp [InCode, Mode.next]

theorem inCode_append (p : Char → Prop) (m : Mode) (cs ds : List Char) :
    InCode p m (cs ++ ds) ↔ InCode p m cs ∧ InCode p (m.after cs) ds := by
  induction cs generalizing m with
  | nil => simp [InCode]
  | cons c cs ih => simp [InCode, ih, and_assoc]

theorem inCode_of_forall {p : Char → Prop} {cs : List Char} (h : ∀ c ∈ cs, p c) (m : Mode) :
    InCode p m cs := by
  induction cs generalizing m with
  | nil => trivial
  | cons c cs ih => exact ⟨fun _ => h c (by simp), ih (fun x hx => h x (by simp [hx])) _⟩

/-! ## Brackets -/

def isOpening (c : Char) : Bool := c == '{' || c == '['

def isClosing (c : Char) : Bool := c == '}' || c == ']'

/-- What stands behind the bracket that closes one more than the `n` that were opened here. -/
def closing : Mode → Nat → List Char → Option (List Char)
  | _, _, [] => none
  | .code, n, c :: cs =>
    if isOpening c then closing .code (n + 1) cs
    else if isClosing c then if n = 0 then some cs else closing .code (n - 1) cs
    else closing (Mode.next .code c) n cs
  | .text, n, c :: cs => closing (Mode.next .text c) n cs
  | .escape, n, _ :: cs => closing .text n cs

/-- A text with all its strings and brackets closed: the scanner passes over it. -/
def Whole (cs : List Char) : Prop := ∀ n r, closing .code n (cs ++ r) = closing .code n r

def Closes (cs : List Char) : Prop :=
  ∀ r, closing .code 0 (cs ++ r) = some r ∧
    ∀ n, closing .code (n + 1) (cs ++ r) = closing .code n r

def IsPlain (c : Char) : Prop := isOpening c = false ∧ isClosing c = false ∧ c ≠ '"'

theorem closing_plain {c : Char} (hc : IsPlain c) (n : Nat) (cs : List Char) :
    closing .code n (c :: cs) = closing .code n cs := by
  obtain ⟨hopen, hclose, hquote⟩ := hc
  rw [closing, if_neg (by simp [hopen]), if_neg (by simp [hclose]), Mode.next, if_neg hquote]

theorem Whole.append {cs ds : List Char} (hcs : Whole cs) (hds : Whole ds) : Whole (cs ++ ds) := by
  intro n r
  rw [List.append_assoc, hcs, hds]

theorem whole_of_plain {cs : List Char} (h : ∀ c ∈ cs, IsPlain c) : Whole cs := by
  intro n r
  induction cs with
  | nil => rfl
  | cons c cs ih =>
    rw [List.cons_append, closing_plain (h c (by simp)), ih fun x hx => h x (by simp [hx])]

theorem Whole.closes {cs ds : List Char} (hcs : Whole cs) (hds : Closes ds) :
    Closes (cs ++ ds) := by
  intro r
  rw [List.append_assoc, hcs]
  refine ⟨(hds r).1, fun n => ?_⟩
  rw [hcs, (hds r).2]

theorem closes_singleton {c : Char} (hc : isClosing c = true) (hopen : isOpening c = false) :
    Closes [c] := by
  intro r
  refine ⟨?_, fun n => ?_⟩
  · rw [List.singleton_append, closing, if_neg (by simp [hopen]), if_pos hc, if_pos rfl]
  · rw [List.singleton_append, closing, if_neg (by simp [hopen]), if_pos hc,
      if_neg (Nat.succ_ne_zero n), Nat.add_sub_cancel]

theorem Closes.whole {c : Char} {cs : List Char} (hc : isOpening c = true) (h : Closes cs) :
    Whole (c :: cs) := by
  intro n r
  rw [List.cons_append, closing, if_pos hc, (h r).2]

theorem closing_append {m : Mode} {n : Nat} {cs r : List Char} (h : closing m n cs = some r)
    (z : List Char) : closing m n (cs ++ z) = some (r ++ z) := by
  induction cs generalizing m n with
  | nil => cases m <;> cases h
  | cons c cs ih =>
    cases m with
    | code =>
      rw [closing] at h
      rw [List.cons_append, closing]
      split at h
      · rename_i hopen
        rw [if_pos hopen, ih h]
      · rename_i hopen
        rw [if_neg hopen]
        split at h
        · rename_i hclose
          rw [if_pos hclose]
          split at h
          · rename_i hn
            obtain rfl := Option.some.inj h
            rw [if_pos hn]
          · rename_i hn
            rw [if_neg hn, ih h]
        · rename_i hclose
          rw [if_neg hclose, ih h]
    | text => exact ih h
    | escape => exact ih h

end YardConsole.Json
