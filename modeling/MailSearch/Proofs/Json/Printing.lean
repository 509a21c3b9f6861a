import MailSearch.Proofs.Json.Escaping
import MailSearch.Text.Numeral

/-!
# Printing loses nothing

No two values are printed as the same text (`Json.render_injective`), so whoever reads a document knows
the value that it was printed from.

This comes from the parts of a document. Wherever a value stands in a document, a comma or the end of the
line comes next, and then its text says which value it is and where it ends (`Json.Told`). The first
character of the text gives the kind of the value (`Json.kindOf`); a number ends before the first
character that is in no number, a string at its closing quote, and a block has a comma after each of its
items but the last.
-/

namespace MailSearch.Json

/-- Whether a text may come right after a value. -/
def Delimits (rest : List Char) : Prop :=
  rest.head? = some ',' ∨ rest.head? = some '\n'

/-- Whether the text of a value is that of no other, and ends where it seems to. -/
def Told {α : Type} (print : α → String) (a : α) : Prop :=
  ∀ ⦃b : α⦄ ⦃s t : List Char⦄, Delimits s → Delimits t →
    (print a).toList ++ s = (print b).toList ++ t → a = b ∧ s = t

/-! ### Numbers -/

/-- The characters of numbers. -/
def isNumeral (c : Char) : Bool :=
  c.isDigit || c == '-' || c == '.'

/-- A text that a number may be printed as. -/
structure IsNumber (text : List Char) : Prop where
  ne_nil : text ≠ []
  isNumeral : ∀ c ∈ text, isNumeral c = true

theorem takeWhile_isNumeral {u s : List Char} (hu : IsNumber u) (hs : Delimits s) :
    (u ++ s).takeWhile isNumeral = u := by
  have hrest : s.takeWhile isNumeral = [] := by
    obtain hs | hs := hs
    · obtain ⟨rest, rfl⟩ := List.head?_eq_some_iff.1 hs
      rfl
    · obtain ⟨rest, rfl⟩ := List.head?_eq_some_iff.1 hs
      rfl
  rw [List.takeWhile_append_of_pos hu.isNumeral, hrest, List.append_nil]

/-- A number ends before what comes after it. -/
theorem IsNumber.append_inj {u v s t : List Char} (hu : IsNumber u) (hv : IsNumber v)
    (hs : Delimits s) (ht : Delimits t) (h : u ++ s = v ++ t) : u = v ∧ s = t := by
  have hnumber := congrArg (List.takeWhile Json.isNumeral) h
  rw [takeWhile_isNumeral hu hs, takeWhile_isNumeral hv ht] at hnumber
  subst hnumber
  exact ⟨rfl, List.append_cancel_left h⟩

theorem notMem_of_isDigit {c : Char} {digits : List Char} (h : ∀ d ∈ digits, d.isDigit = true)
    (hc : c.isDigit = false) : c ∉ digits := by
  intro hmem
  rw [h c hmem] at hc
  cases hc

/-- The digits of a number after its sign. -/
def signed (n : Int) (digits : List Char) : List Char :=
  (if n < 0 then ['-'] else []) ++ digits

/-- A number with a minus sign is negative, since the sign is nowhere but in front. -/
theorem mem_signed_iff {n : Int} {digits : List Char} (h : '-' ∉ digits) :
    '-' ∈ signed n digits ↔ n < 0 := by
  unfold signed
  split
  · rename_i hn
    exact iff_of_true (List.mem_cons_self ..) hn
  · rename_i hn
    exact iff_of_false h hn

theorem signed_inj {m n : Int} {us vs : List Char} (hus : '-' ∉ us) (hvs : '-' ∉ vs)
    (h : signed m us = signed n vs) : (m < 0 ↔ n < 0) ∧ us = vs := by
  have hnegative : m < 0 ↔ n < 0 := by
    rw [← mem_signed_iff hus, h, mem_signed_iff hvs]
  refine ⟨hnegative, ?_⟩
  simp only [signed, hnegative] at h
  split at h
  · exact (List.cons.inj h).2
  · exact h

theorem isNumber_signed {n : Int} {digits : List Char} (hne : digits ≠ [])
    (hdigits : ∀ c ∈ digits, c.isDigit = true ∨ c = '.') : IsNumber (signed n digits) := by
  have hnumeral : ∀ c ∈ digits, isNumeral c = true := by
    intro c hc
    obtain hdigit | rfl := hdigits c hc
    · simp [isNumeral, hdigit]
    · rfl
  unfold signed
  split
  · exact ⟨List.cons_ne_nil _ _, List.forall_mem_cons.2 ⟨rfl, hnumeral⟩⟩
  · exact ⟨hne, hnumeral⟩

/-! ### Integers and decimals -/

theorem isDigit_of_mem_toDigits {n : Nat} : ∀ c ∈ Nat.toDigits 10 n, c.isDigit = true :=
  fun _ => Nat.isDigit_of_mem_toDigits (by decide) (by decide)

theorem isNumber_toString (n : Int) : IsNumber (toString n).toList := by
  rw [Text.toList_toString]
  exact isNumber_signed Nat.toDigits_ne_nil fun c hc => .inl (isDigit_of_mem_toDigits c hc)

theorem toString_inj {m n : Int} (h : (toString m).toList = (toString n).toList) : m = n := by
  have hminus {n : Nat} : '-' ∉ Nat.toDigits 10 n := notMem_of_isDigit isDigit_of_mem_toDigits rfl
  rw [Text.toList_toString, Text.toList_toString] at h
  obtain ⟨hnegative, hdigits⟩ := signed_inj hminus hminus h
  have habs : m.natAbs = n.natAbs := by
    rw [← Nat.ofDigitChars_ten_toDigits (n := m.natAbs), hdigits, Nat.ofDigitChars_ten_toDigits]
  omega

/-- The digits of a decimal have a point in front of as many of them as there are places. -/
theorem exists_renderDecimal (mantissa : Int) (places : Nat) :
    ∃ whole fraction : List Char,
      (renderDecimal mantissa places).toList = signed mantissa (whole ++ '.' :: fraction) ∧
      (∀ c ∈ whole ++ fraction, c.isDigit = true) ∧
      fraction.length = places ∧ Nat.ofDigitChars 10 (whole ++ fraction) 0 = mantissa.natAbs := by
  generalize hdigits : Nat.toDigits 10 mantissa.natAbs = digits
  generalize hpadded : List.replicate (places + 1 - digits.length) '0' ++ digits = padded
  have hlength : places + 1 ≤ padded.length := by
    rw [← hpadded, List.length_append, List.length_replicate]
    omega
  have hsplit := List.take_append_drop (padded.length - places) padded
  refine ⟨padded.take (padded.length - places), padded.drop (padded.length - places),
    ?_, ?_, ?_, ?_⟩
  · rw [renderDecimal, hdigits, hpadded, String.toList_append, String.toList_ofList, signed]
    split <;> rfl
  · rw [hsplit, ← hpadded]
    intro c hc
    obtain hc | hc := List.mem_append.1 hc
    · rw [List.eq_of_mem_replicate hc]
      rfl
    · rw [← hdigits] at hc
      exact isDigit_of_mem_toDigits c hc
  · rw [List.length_drop]
    omega
  · -- the zeros in front add nothing
    rw [hsplit, ← hpadded, Nat.ofDigitChars_append, Nat.ofDigitChars_replicate_zero, Nat.mul_zero,
      ← hdigits, Nat.ofDigitChars_ten_toDigits]

theorem notMem_of_isDigit_append {c : Char} {whole fraction : List Char}
    (h : ∀ d ∈ whole ++ fraction, d.isDigit = true) (hc : c.isDigit = false) :
    c ∉ whole ∧ c ∉ fraction := by
  have hboth := notMem_of_isDigit h hc
  rwa [List.mem_append, not_or] at hboth

theorem minus_notMem_decimal {whole fraction : List Char}
    (h : ∀ d ∈ whole ++ fraction, d.isDigit = true) : '-' ∉ whole ++ '.' :: fraction := by
  simp [notMem_of_isDigit_append (c := '-') h rfl]

theorem isNumber_renderDecimal (mantissa : Int) (places : Nat) :
    IsNumber (renderDecimal mantissa places).toList := by
  obtain ⟨whole, fraction, htext, hdigits, -⟩ := exists_renderDecimal mantissa places
  rw [htext]
  refine isNumber_signed (List.append_ne_nil_of_right_ne_nil _ (List.cons_ne_nil _ _)) ?_
  intro c hc
  rw [List.mem_append, List.mem_cons] at hc
  obtain hc | rfl | hc := hc
  · exact .inl (hdigits c (List.mem_append_left _ hc))
  · exact .inr rfl
  · exact .inl (hdigits c (List.mem_append_right _ hc))

/-- A decimal has a point in it, and an integer has none. -/
theorem toString_ne_renderDecimal (n mantissa : Int) (places : Nat) :
    (toString n).toList ≠ (renderDecimal mantissa places).toList := by
  intro h
  obtain ⟨whole, fraction, hmantissa, hdigits, -⟩ := exists_renderDecimal mantissa places
  rw [Text.toList_toString, hmantissa] at h
  obtain ⟨-, heq⟩ := signed_inj (notMem_of_isDigit isDigit_of_mem_toDigits rfl)
    (minus_notMem_decimal hdigits) h
  have hpoint : '.' ∉ Nat.toDigits 10 n.natAbs := notMem_of_isDigit isDigit_of_mem_toDigits rfl
  rw [heq] at hpoint
  exact hpoint (List.mem_append_right _ (List.mem_cons_self ..))

theorem renderDecimal_inj {m n : Int} {j k : Nat}
    (h : (renderDecimal m j).toList = (renderDecimal n k).toList) : m = n ∧ j = k := by
  obtain ⟨whole, fraction, hm, hdigits, rfl, hvalue⟩ := exists_renderDecimal m j
  obtain ⟨whole', fraction', hn, hdigits', rfl, hvalue'⟩ := exists_renderDecimal n k
  rw [hm, hn] at h
  obtain ⟨hnegative, heq⟩ :=
    signed_inj (minus_notMem_decimal hdigits) (minus_notMem_decimal hdigits') h
  -- the point is where the digits are cut
  obtain ⟨hwhole, hfraction⟩ := notMem_of_isDigit_append (c := '.') hdigits rfl
  rw [List.append_cons_inj_of_notMem hwhole hfraction] at heq
  obtain ⟨rfl, -, rfl⟩ := heq
  rw [hvalue] at hvalue'
  exact ⟨by omega, rfl⟩

/-! ### Kinds -/

/-- What the first character of a text tells about a value. -/
inductive Kind where
  | null
  | bool (value : Bool)
  | number
  | str
  | arr
  | obj

def kind : Json → Kind
  | null => .null
  | bool value => .bool value
  | int _ => .number
  | decimal _ _ => .number
  | str _ => .str
  | arr _ => .arr
  | obj _ => .obj

/-- The kind of the values whose text starts with a character. -/
def kindOf : Char → Kind
  | 'n' => .null
  | 't' => .bool true
  | 'f' => .bool false
  | '"' => .str
  | '[' => .arr
  | '\x7b' => .obj
  | _ => .number

theorem kindOf_of_isNumeral {c : Char} (h : isNumeral c = true) : kindOf c = .number := by
  unfold kindOf
  split <;> first | rfl | cases h

theorem IsNumber.kindOf_head? {text : List Char} (h : IsNumber text) :
    text.head?.map kindOf = some .number := by
  obtain ⟨c, rest, rfl⟩ := List.exists_cons_of_ne_nil h.ne_nil
  exact congrArg some (kindOf_of_isNumeral (h.isNumeral c (List.mem_cons_self ..)))

/-- A block starts with its opening bracket. -/
theorem head?_block (level : Nat) {opening : String} (h : opening.toList ≠ [])
    (closing : String) (items : List String) :
    (block level opening closing items).toList.head? = opening.toList.head? := by
  unfold block
  split
  · rw [String.toList_append, List.head?_append_of_ne_nil _ h]
  · simp only [String.toList_append, List.append_assoc, List.head?_append_of_ne_nil _ h]

/-- A value has the kind that its text starts with. -/
theorem kindOf_head?_renderAt (level : Nat) (a : Json) :
    (renderAt level a).toList.head?.map kindOf = some a.kind := by
  cases a with
  | null =>
    rw [renderAt]
    rfl
  | bool value =>
    cases value <;> rw [renderAt] <;> rfl
  | int value => exact (isNumber_toString value).kindOf_head?
  | decimal mantissa places => exact (isNumber_renderDecimal mantissa places).kindOf_head?
  | str text =>
    rw [renderAt, renderString, String.toList_ofList]
    rfl
  | arr items =>
    rw [renderAt, head?_block level (by decide)]
    rfl
  | obj members =>
    rw [renderAt, head?_block level (by decide)]
    rfl

theorem kind_eq_of_append_eq {a b : Json} {level : Nat} {s t : List Char}
    (h : (renderAt level a).toList ++ s = (renderAt level b).toList ++ t) : a.kind = b.kind := by
  -- no text is empty, so what comes after a value has no part in its first character
  have hne (a : Json) : (renderAt level a).toList ≠ [] := by
    intro hnil
    have hkind := kindOf_head?_renderAt level a
    rw [hnil] at hkind
    cases hkind
  have hhead := congrArg (fun text => text.head?.map kindOf) h
  simp only [List.head?_append_of_ne_nil _ (hne _), kindOf_head?_renderAt] at hhead
  exact Option.some.inj hhead

/-! ### Blocks -/

/-- What comes after the first item of a block. -/
def blockRest (level : Nat) (closing : String) : List String → List Char
  | [] => (newline level ++ closing).toList
  | item :: rest =>
    ',' :: ((newline (level + 1)).toList ++ (item.toList ++ blockRest level closing rest))

theorem toList_block_cons (level : Nat) (opening closing item : String) (rest : List String) :
    (block level opening closing (item :: rest)).toList
      = opening.toList ++ ((newline (level + 1)).toList ++
          (item.toList ++ blockRest level closing rest)) := by
  have hitems (item : String) (rest : List String) :
      (("," ++ newline (level + 1)).intercalate (item :: rest)).toList ++
          (newline level ++ closing).toList
        = item.toList ++ blockRest level closing rest := by
    induction rest generalizing item with
    | nil => rw [String.intercalate_singleton, blockRest]
    | cons next rest ih =>
      rw [String.intercalate_cons_cons, String.toList_append, List.append_assoc, ih,
        String.toList_append, String.toList_append, List.append_assoc, List.append_assoc]
      rfl
  have hblock : block level opening closing (item :: rest)
      = opening ++ newline (level + 1) ++
          ("," ++ newline (level + 1)).intercalate (item :: rest) ++ newline level ++ closing := rfl
  rw [hblock, String.append_assoc, String.toList_append, String.toList_append,
    String.toList_append, List.append_assoc, List.append_assoc, hitems]

/-- A comma or the end of the line comes after every item. -/
theorem delimits_blockRest (level : Nat) (closing : String) (rest : List String) (s : List Char) :
    Delimits (blockRest level closing rest ++ s) := by
  cases rest with
  | nil => exact .inr (by simp [blockRest, newline])
  | cons item rest => exact .inl rfl

section Blocks

variable {α : Type} {print : α → String} {xs : List α}

/-- The items of a block are told one after the other. Induction on the items. -/
theorem blockRest_append_inj (h : ∀ x ∈ xs, Told print x) {level : Nat} {closing : String}
    {ys : List α} {s t : List Char}
    (heq : blockRest level closing (xs.map print) ++ s = blockRest level closing (ys.map print) ++ t) :
    xs = ys ∧ s = t := by
  -- a block that ends goes on with a new line, and one that does not with a comma
  have hends (item : String) (rest : List String) (s t : List Char) :
      blockRest level closing [] ++ s ≠ blockRest level closing (item :: rest) ++ t := by
    intro heq
    have hhead := congrArg List.head? heq
    simp [blockRest, newline] at hhead
  induction xs generalizing ys with
  | nil =>
    cases ys with
    | nil => exact ⟨rfl, List.append_cancel_left heq⟩
    | cons y ys => exact absurd heq (hends _ _ s t)
  | cons x xs ih =>
    cases ys with
    | nil => exact absurd heq.symm (hends _ _ t s)
    | cons y ys =>
      simp only [List.map_cons, blockRest, List.cons_append, List.append_assoc, List.cons.injEq,
        true_and, List.append_right_inj] at heq
      obtain ⟨rfl, hrest⟩ := h x (List.mem_cons_self ..) (delimits_blockRest ..)
        (delimits_blockRest ..) heq
      obtain ⟨rfl, rfl⟩ := ih (fun x hx => h x (List.mem_cons_of_mem _ hx)) hrest
      exact ⟨rfl, rfl⟩

/-- **A block is told if its items are.** -/
theorem block_append_inj (h : ∀ x ∈ xs, Told print x) {level : Nat} {opening closing : String}
    (hclosing : closing.toList.head? ≠ some '\n') (hne : closing.toList ≠ []) {ys : List α}
    {s t : List Char}
    (heq : (block level opening closing (xs.map print)).toList ++ s
      = (block level opening closing (ys.map print)).toList ++ t) : xs = ys ∧ s = t := by
  -- an empty block is closed at once
  have hempty (item : String) (rest : List String) (s t : List Char) :
      (block level opening closing []).toList ++ s
        ≠ (block level opening closing (item :: rest)).toList ++ t := by
    intro heq
    have hblock : block level opening closing [] = opening ++ closing := rfl
    rw [toList_block_cons, hblock, String.toList_append, List.append_assoc,
      List.append_assoc, List.append_right_inj] at heq
    have hhead := congrArg List.head? heq
    rw [List.head?_append_of_ne_nil _ hne] at hhead
    exact hclosing (by simpa [newline] using hhead)
  cases xs with
  | nil =>
    cases ys with
    | nil => exact ⟨rfl, List.append_cancel_left heq⟩
    | cons y ys => exact absurd heq (hempty _ _ s t)
  | cons x xs =>
    cases ys with
    | nil => exact absurd heq.symm (hempty _ _ t s)
    | cons y ys =>
      simp only [List.map_cons, toList_block_cons, List.append_assoc, List.append_right_inj] at heq
      obtain ⟨rfl, hrest⟩ := h x (List.mem_cons_self ..) (delimits_blockRest ..)
        (delimits_blockRest ..) heq
      obtain ⟨rfl, rfl⟩ := blockRest_append_inj (fun x hx => h x (List.mem_cons_of_mem _ hx)) hrest
      exact ⟨rfl, rfl⟩

end Blocks

/-! ### Values -/

/-- The member of an object as it is printed at a level of nesting. -/
def renderMember (level : Nat) (member : String × Json) : String :=
  renderString member.1 ++ ": " ++ renderAt level member.2

theorem renderItems_eq_map (level : Nat) (items : List Json) :
    renderItems level items = items.map (renderAt level) := by
  induction items with
  | nil => rfl
  | cons item rest ih => rw [renderItems, ih, List.map_cons]

theorem renderMembers_eq_map (level : Nat) (members : List (String × Json)) :
    renderMembers level members = members.map (renderMember level) := by
  induction members with
  | nil => rfl
  | cons member rest ih => rw [renderMembers, ih, List.map_cons, renderMember]

theorem told_renderMember {level : Nat} {member : String × Json}
    (h : Told (renderAt level) member.2) : Told (renderMember level) member := by
  intro other s t hs ht heq
  simp only [renderMember, String.toList_append, List.append_assoc] at heq
  obtain ⟨hkey, heq⟩ := renderString_append_inj heq
  obtain ⟨hvalue, rfl⟩ := h hs ht (List.append_cancel_left heq)
  exact ⟨Prod.ext hkey hvalue, rfl⟩

section Values

variable {level : Nat}

theorem told_null : Told (renderAt level) null := by
  intro b s t _ _ heq
  have hkind := kind_eq_of_append_eq heq
  cases b <;> cases hkind
  exact ⟨rfl, List.append_cancel_left heq⟩

theorem told_bool (value : Bool) : Told (renderAt level) (bool value) := by
  intro b s t _ _ heq
  have hkind := kind_eq_of_append_eq heq
  cases b <;> cases hkind
  exact ⟨rfl, List.append_cancel_left heq⟩

theorem told_int (n : Int) : Told (renderAt level) (int n) := by
  intro b s t hs ht heq
  have hkind := kind_eq_of_append_eq heq
  cases b <;> cases hkind
  case int m =>
    rw [renderAt, renderAt] at heq
    obtain ⟨htext, rfl⟩ := (isNumber_toString n).append_inj (isNumber_toString m) hs ht heq
    exact ⟨congrArg int (toString_inj htext), rfl⟩
  case decimal mantissa places =>
    rw [renderAt, renderAt] at heq
    obtain ⟨htext, -⟩ :=
      (isNumber_toString n).append_inj (isNumber_renderDecimal mantissa places) hs ht heq
    exact absurd htext (toString_ne_renderDecimal n mantissa places)

theorem told_decimal (mantissa : Int) (places : Nat) :
    Told (renderAt level) (decimal mantissa places) := by
  intro b s t hs ht heq
  have hkind := kind_eq_of_append_eq heq
  have hnumber := isNumber_renderDecimal mantissa places
  cases b <;> cases hkind
  case int n =>
    rw [renderAt, renderAt] at heq
    obtain ⟨htext, -⟩ := hnumber.append_inj (isNumber_toString n) hs ht heq
    exact absurd htext.symm (toString_ne_renderDecimal n mantissa places)
  case decimal mantissa' places' =>
    rw [renderAt, renderAt] at heq
    obtain ⟨htext, rfl⟩ :=
      hnumber.append_inj (isNumber_renderDecimal mantissa' places') hs ht heq
    obtain ⟨rfl, rfl⟩ := renderDecimal_inj htext
    exact ⟨rfl, rfl⟩

theorem told_str (text : String) : Told (renderAt level) (str text) := by
  intro b s t _ _ heq
  have hkind := kind_eq_of_append_eq heq
  cases b <;> cases hkind
  rw [renderAt, renderAt] at heq
  obtain ⟨rfl, rfl⟩ := renderString_append_inj heq
  exact ⟨rfl, rfl⟩

theorem told_arr {items : List Json} (h : ∀ item ∈ items, Told (renderAt (level + 1)) item) :
    Told (renderAt level) (arr items) := by
  intro b s t _ _ heq
  have hkind := kind_eq_of_append_eq heq
  cases b <;> cases hkind
  rw [renderAt, renderAt, renderItems_eq_map, renderItems_eq_map] at heq
  obtain ⟨rfl, rfl⟩ := block_append_inj h (by decide) (by decide) heq
  exact ⟨rfl, rfl⟩

theorem told_obj {members : List (String × Json)}
    (h : ∀ member ∈ members, Told (renderAt (level + 1)) member.2) :
    Told (renderAt level) (obj members) := by
  intro b s t _ _ heq
  have hkind := kind_eq_of_append_eq heq
  cases b <;> cases hkind
  rw [renderAt, renderAt, renderMembers_eq_map, renderMembers_eq_map] at heq
  have hmembers : ∀ member ∈ members, Told (renderMember (level + 1)) member :=
    fun member hmember => told_renderMember (h member hmember)
  obtain ⟨rfl, rfl⟩ := block_append_inj hmembers (by decide) (by decide) heq
  exact ⟨rfl, rfl⟩

end Values

/-- **A value is told from its text**, at every level of nesting. Induction on the value. -/
theorem told_renderAt (level : Nat) : ∀ a : Json, Told (renderAt level) a
  | null => told_null
  | bool value => told_bool value
  | int n => told_int n
  | decimal mantissa places => told_decimal mantissa places
  | str text => told_str text
  | arr items => told_arr fun item _ => told_renderAt (level + 1) item
  | obj members => told_obj fun (_, value) _ => told_renderAt (level + 1) value
termination_by a => sizeOf a
decreasing_by
  -- an item is smaller than its array, and a value than the object that it is a member of
  · rename_i hitem
    have hsize := List.sizeOf_lt_of_mem hitem
    simp only [arr.sizeOf_spec]
    omega
  · rename_i hmember
    have hsize := List.sizeOf_lt_of_mem hmember
    simp only [obj.sizeOf_spec, Prod.mk.sizeOf_spec] at hsize ⊢
    omega

/-- **No two values are printed as the same text.** -/
theorem render_injective : Function.Injective render := by
  intro a b h
  have hend : Delimits ['\n'] := .inr rfl
  have heq : (renderAt 0 a).toList ++ ['\n'] = (renderAt 0 b).toList ++ ['\n'] :=
    congrArg (fun text => text.toList ++ ['\n']) h
  exact (told_renderAt 0 a hend hend heq).1

end MailSearch.Json
