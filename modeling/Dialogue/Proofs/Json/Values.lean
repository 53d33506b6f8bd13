import Dialogue.Proofs.Json.Strings

/-!
# Values are read back

What is written is read back, in every layout that puts nothing but blanks between the
parts of a value. This holds for values without numbers whose objects have no name twice,
as deep as the reader follows them. The reader's bound counts steps; a text as long as
the bound is never cut off by it, since every step takes a character.
-/

namespace Dialogue

/-! ## Names -/

section Names

variable {α : Type} {name : String} {value : α} {before behind : List (String × α)}

/-- A name that is none of those before is not found among them. -/
theorem any_name_of_not_mem (fresh : name ∉ before.map (·.1)) :
    (before.any fun entry => entry.1 = name) = false := by
  rw [List.any_eq_false]
  intro entry inside same
  exact fresh (List.mem_map.mpr ⟨entry, inside, of_decide_eq_true same⟩)

/-- Where no name occurs twice, the next one is none of those before. -/
theorem not_mem_of_nodup_names (distinct : ((before ++ (name, value) :: behind).map (·.1)).Nodup) :
    name ∉ before.map (·.1) := by
  rw [List.map_append, List.nodup_append] at distinct
  intro earlier
  exact distinct.2.2 name earlier name List.mem_cons_self rfl

end Names

namespace Json

open Text

variable {half : Option Char} {layout : Layout} {bound room depth : Nat} {value item : Json}
  {items : List Json} {members : List (String × Json)} {blanks rest text : List Char} {c : Char}

/-- A value without numbers whose objects name no member twice, with so many containers inside
each other at most. -/
inductive Plain : (room : Nat) → Json → Prop where
  | null {room : Nat} : Plain room .null
  | bool {room : Nat} (value : Bool) : Plain room (.bool value)
  | str {room : Nat} (text : String) : Plain room (.str text)
  | arr {room : Nat} {items : List Json} (each : ∀ item ∈ items, Plain room item) :
    Plain (room + 1) (.arr items)
  | obj {room : Nat} {members : List (String × Json)} (unique : (members.map (·.1)).Nodup)
    (each : ∀ member ∈ members, Plain room member.2) : Plain (room + 1) (.obj members)

/-! ## Layouts of blanks -/

/-- Characters that may all stand between the parts of a value. -/
def Blank (blanks : List Char) : Prop :=
  ∀ c ∈ blanks, isLayout c = true

/-- A layout that adds nothing but blanks to the commas and colons. -/
structure Layout.IsBlank (layout : Layout) : Prop where
  lineStart : ∀ depth, Blank (layout.lineStart depth)
  comma : ∃ blanks, layout.comma = ',' :: blanks ∧ Blank blanks
  colon : ∃ blanks, layout.colon = ':' :: blanks ∧ Blank blanks

theorem Layout.isBlank_pretty : Layout.pretty.IsBlank where
  lineStart depth := by
    intro c member
    rcases List.mem_cons.mp member with rfl | space
    · rfl
    · rw [List.eq_of_mem_replicate space]
      rfl
  comma := ⟨[], rfl, by simp [Blank]⟩
  colon := ⟨[' '], rfl, by simp [Blank, isLayout]⟩

theorem skipLayout_append (blank : Blank blanks) (rest : List Char) :
    skipLayout (blanks ++ rest) = skipLayout rest :=
  List.dropWhile_append_of_pos blank

theorem skipLayout_cons (part : isLayout c = false) (rest : List Char) :
    skipLayout (c :: rest) = c :: rest := by
  simp [skipLayout, part]

/-! ## The first character -/

/-- The characters with which a value without numbers begins. -/
def openers : List Char :=
  ['n', 't', 'f', '\x22', '[', '\x7b']

theorem Plain.exists_opener (plain : Plain room value) (layout : Layout) (depth : Nat) :
    ∃ c ∈ openers, ∃ rest, value.write layout depth = c :: rest := by
  cases plain with
  | null => exact ⟨'n', by decide, _, rfl⟩
  | bool value =>
    cases value
    · exact ⟨'f', by decide, _, rfl⟩
    · exact ⟨'t', by decide, _, rfl⟩
  | str text => exact ⟨'\x22', by decide, _, rfl⟩
  | @arr _ items =>
    refine ⟨'[', by decide, ?_⟩
    cases items <;> exact ⟨_, rfl⟩
  | @obj _ members =>
    refine ⟨'\x7b', by decide, ?_⟩
    cases members <;> exact ⟨_, rfl⟩

theorem isLayout_of_mem_openers (opener : c ∈ openers) : isLayout c = false := by
  simp only [openers, List.mem_cons, List.not_mem_nil, or_false] at opener
  rcases opener with rfl | rfl | rfl | rfl | rfl | rfl <;> rfl

theorem Plain.skipLayout_write (plain : Plain room value) (layout : Layout) (depth : Nat)
    (rest : List Char) :
    skipLayout (value.write layout depth ++ rest) = value.write layout depth ++ rest := by
  obtain ⟨c, opener, tail, write_eq⟩ := plain.exists_opener layout depth
  rw [write_eq]
  exact skipLayout_cons (isLayout_of_mem_openers opener) _

theorem skipLayout_writeText (text : String) (rest : List Char) :
    skipLayout (writeText text ++ rest) = writeText text ++ rest :=
  skipLayout_cons rfl _

/-! ## What is read back -/

/-- A value is read back from what is written, with whatever behind it. -/
def ReadsBack (half : Option Char) (layout : Layout) (room : Nat) (value : Json) : Prop :=
  ∀ depth bound rest, (value.write layout depth).length ≤ bound →
    readValue half bound room (value.write layout depth ++ rest) = .ok (value, rest)

theorem readValue_writeText (text : String) (rest : List Char) :
    readValue half (bound + 1) room (writeText text ++ rest) = .ok (.str text, rest) := by
  have chars := readChars_flatMap_escapeChar half (writeText text ++ rest) rest text.toList
  simp only [writeText, List.cons_append, List.append_assoc, List.nil_append] at chars ⊢
  rw [readValue, chars]
  simp

/-! ## Items and members -/

/-- Behind an item, its comma and the start of the next line stands the next item. -/
theorem Layout.IsBlank.skipLayout_next (blank : layout.IsBlank) (depth : Nat) (rest : List Char) :
    ∃ behind, skipLayout (layout.comma ++ layout.lineStart depth ++ rest) = ',' :: behind ∧
      skipLayout behind = skipLayout rest := by
  obtain ⟨blanks, comma_eq, blanks_blank⟩ := blank.comma
  refine ⟨blanks ++ layout.lineStart depth ++ rest, ?_, ?_⟩
  · rw [comma_eq]
    exact skipLayout_cons rfl _
  · rw [List.append_assoc, skipLayout_append blanks_blank,
      skipLayout_append (blank.lineStart depth)]

theorem Layout.IsBlank.length_comma (blank : layout.IsBlank) : 0 < layout.comma.length := by
  obtain ⟨blanks, comma_eq, -⟩ := blank.comma
  simp [comma_eq]

/-- The items of an array are read back behind those before them, by induction on the items. -/
theorem readItems_write (blank : layout.IsBlank) (close : Blank blanks)
    (plain : ∀ item ∈ items, Plain room item)
    (back : ∀ item ∈ items, ReadsBack half layout room item)
    (first : ReadsBack half layout room item) (before : List Json)
    (long : (item.write layout depth).length + (writeItems layout depth items).length < bound) :
    readItems half bound room before
      (item.write layout depth ++ (writeItems layout depth items ++ (blanks ++ ']' :: rest))) =
        .ok (.arr (before ++ item :: items), rest) := by
  induction items generalizing item before bound with
  | nil =>
    obtain ⟨bound, rfl⟩ : ∃ less, bound = less + 1 := ⟨bound - 1, by omega⟩
    have closed : skipLayout (blanks ++ ']' :: rest) = ']' :: rest := by
      rw [skipLayout_append close]
      exact skipLayout_cons rfl _
    rw [readItems, first depth bound _ (by omega), writeItems, List.nil_append]
    simp only [closed]
  | cons next items ih =>
    obtain ⟨bound, rfl⟩ : ∃ less, bound = less + 1 := ⟨bound - 1, by omega⟩
    obtain ⟨behind, comma_eq, next_eq⟩ := blank.skipLayout_next depth
      (next.write layout depth ++ (writeItems layout depth items ++ (blanks ++ ']' :: rest)))
    rw [(plain next List.mem_cons_self).skipLayout_write] at next_eq
    have comma := blank.length_comma
    simp only [writeItems, List.length_append] at long
    rw [readItems, first depth bound _ (by omega), writeItems]
    simp only [List.append_assoc] at comma_eq ⊢
    simp only [comma_eq, next_eq]
    rw [ih (fun item member => plain item (List.mem_cons_of_mem _ member))
      (fun item member => back item (List.mem_cons_of_mem _ member))
      (back next List.mem_cons_self) (before ++ [item]) (by omega), List.append_assoc,
      List.singleton_append]

theorem addMember_of_not_mem {name : String} (fresh : name ∉ members.map (·.1)) (value : Json) :
    addMember members name value = members ++ [(name, value)] := by
  rw [addMember, any_name_of_not_mem fresh, if_neg Bool.false_ne_true]

/-- Behind the name of a member and its colon stands the value. -/
theorem Layout.IsBlank.skipLayout_colon (blank : layout.IsBlank) (rest : List Char) :
    ∃ behind, skipLayout (layout.colon ++ rest) = ':' :: behind ∧
      skipLayout behind = skipLayout rest := by
  obtain ⟨blanks, colon_eq, blanks_blank⟩ := blank.colon
  refine ⟨blanks ++ rest, ?_, skipLayout_append blanks_blank rest⟩
  rw [colon_eq]
  exact skipLayout_cons rfl _

/-- A member with a new name is put behind those before it, and the character behind it decides
whether the object ends or another member follows. -/
theorem readMembers_member {name : String} (blank : layout.IsBlank) (plain : Plain room value)
    (back : ReadsBack half layout room value) {before : List (String × Json)}
    (fresh : name ∉ before.map (·.1)) (long : (value.write layout depth).length ≤ bound) :
    (skipLayout text = '\x7d' :: rest →
      readMembers half (bound + 1) room before
        (writeText name ++ (layout.colon ++ (value.write layout depth ++ text))) =
        .ok (.obj (before ++ [(name, value)]), rest)) ∧
    (skipLayout text = ',' :: rest →
      readMembers half (bound + 1) room before
        (writeText name ++ (layout.colon ++ (value.write layout depth ++ text))) =
        readMembers half bound room (before ++ [(name, value)]) (skipLayout rest)) := by
  obtain ⟨behind, colon_eq, value_eq⟩ := blank.skipLayout_colon (value.write layout depth ++ text)
  rw [plain.skipLayout_write] at value_eq
  have chars (opening : List Char) := readChars_flatMap_escapeChar half opening
    (layout.colon ++ (value.write layout depth ++ text)) name.toList
  simp only [writeText, List.cons_append, List.append_assoc, List.nil_append]
  constructor
  all_goals
    intro text_eq
    rw [readMembers, chars]
    simp only [colon_eq, value_eq, String.ofList_toList]
    rw [back depth bound text long]
    simp only [addMember_of_not_mem fresh value, text_eq]

/-- The members of an object are read back behind those before them, by induction on the
members. -/
theorem readMembers_write {name : String} (blank : layout.IsBlank) (close : Blank blanks)
    (plain : ∀ member ∈ members, Plain room member.2)
    (back : ∀ member ∈ members, ReadsBack half layout room member.2)
    (first_plain : Plain room value) (first : ReadsBack half layout room value)
    (before : List (String × Json))
    (unique : ((before ++ (name, value) :: members).map (·.1)).Nodup)
    (long : (value.write layout depth).length + (writeMembers layout depth members).length <
      bound) :
    readMembers half bound room before
      (writeText name ++ (layout.colon ++ (value.write layout depth ++
        (writeMembers layout depth members ++ (blanks ++ '\x7d' :: rest))))) =
        .ok (.obj (before ++ (name, value) :: members), rest) := by
  induction members generalizing name value before bound with
  | nil =>
    obtain ⟨bound, rfl⟩ : ∃ less, bound = less + 1 := ⟨bound - 1, by omega⟩
    have closed : skipLayout (blanks ++ '\x7d' :: rest) = '\x7d' :: rest := by
      rw [skipLayout_append close]
      exact skipLayout_cons rfl _
    rw [writeMembers, List.nil_append]
    exact (readMembers_member blank first_plain first (not_mem_of_nodup_names unique)
      (by omega)).1 closed
  | cons next members ih =>
    obtain ⟨next, next_value⟩ := next
    obtain ⟨bound, rfl⟩ : ∃ less, bound = less + 1 := ⟨bound - 1, by omega⟩
    obtain ⟨behind, comma_eq, next_eq⟩ := blank.skipLayout_next depth
      (writeText next ++ (layout.colon ++ (next_value.write layout depth ++
        (writeMembers layout depth members ++ (blanks ++ '\x7d' :: rest)))))
    rw [skipLayout_writeText] at next_eq
    simp only [List.append_assoc] at comma_eq
    have comma := blank.length_comma
    simp only [writeMembers, List.length_append] at long
    rw [writeMembers]
    simp only [List.append_assoc]
    rw [(readMembers_member blank first_plain first (not_mem_of_nodup_names unique)
      (by omega)).2 comma_eq, next_eq]
    have next_plain : Plain room next_value := plain _ List.mem_cons_self
    have next_back : ReadsBack half layout room next_value := back _ List.mem_cons_self
    rw [ih (fun member inside => plain member (List.mem_cons_of_mem _ inside))
      (fun member inside => back member (List.mem_cons_of_mem _ inside)) next_plain next_back
      (before ++ [(name, value)]) (by rwa [List.append_assoc]) (by omega), List.append_assoc,
      List.singleton_append]

/-! ## Values -/

/-- An array that does not end at once is read from its first item on. -/
theorem readValue_array (plain : Plain room item) (layout : Layout) (open_ : Blank blanks)
    (rest : List Char) :
    readValue half (bound + 1) (room + 1) ('[' :: (blanks ++ (item.write layout depth ++ rest))) =
      readItems half bound room [] (item.write layout depth ++ rest) := by
  have skipped : skipLayout (blanks ++ (item.write layout depth ++ rest)) =
      item.write layout depth ++ rest := by
    rw [skipLayout_append open_, plain.skipLayout_write]
  obtain ⟨c, opener, tail, write_eq⟩ := plain.exists_opener layout depth
  have other : c ≠ ']' := by
    rintro rfl
    exact absurd opener (by decide)
  rw [readValue, skipped, write_eq, List.cons_append]
  split
  next closing => exact absurd (List.cons.inj closing).1 other
  next => rfl

/-- An object that does not end at once is read from its first name on. -/
theorem readValue_object (name : String) (open_ : Blank blanks) (rest : List Char) :
    readValue half (bound + 1) (room + 1) ('\x7b' :: (blanks ++ (writeText name ++ rest))) =
      readMembers half bound room [] (writeText name ++ rest) := by
  have skipped : skipLayout (blanks ++ (writeText name ++ rest)) = writeText name ++ rest := by
    rw [skipLayout_append open_, skipLayout_writeText]
  rw [readValue, skipped]
  rfl

/-- Something is written for every value, so the bound is never zero. -/
theorem Plain.readsBack_of_succ (plain : Plain room value)
    (read : ∀ depth bound rest, (value.write layout depth).length ≤ bound + 1 →
      readValue half (bound + 1) room (value.write layout depth ++ rest) = .ok (value, rest)) :
    ReadsBack half layout room value := by
  intro depth bound rest long
  obtain ⟨c, -, tail, write_eq⟩ := plain.exists_opener layout depth
  cases bound with
  | zero =>
    rw [write_eq] at long
    cases long
  | succ bound => exact read depth bound rest long

/-- A value is read back, by induction on how it is made up. -/
theorem Plain.readsBack (blank : layout.IsBlank) (plain : Plain room value) :
    ReadsBack half layout room value := by
  induction plain with
  | null =>
    apply Plain.null.readsBack_of_succ
    intro depth bound rest _
    simp [write, readValue, readSimple, names]
  | bool value =>
    apply (Plain.bool value).readsBack_of_succ
    intro depth bound rest _
    cases value <;> simp [write, readValue, readSimple, names]
  | str text =>
    apply (Plain.str text).readsBack_of_succ
    intro depth bound rest _
    exact readValue_writeText text rest
  | @arr room items each ih =>
    apply (Plain.arr each).readsBack_of_succ
    intro depth bound rest long
    cases items with
    | nil => rfl
    | cons item items =>
      simp only [write, List.length_cons, List.length_append] at long
      simp only [write, List.cons_append, List.append_assoc, List.nil_append]
      rw [readValue_array (each item List.mem_cons_self) layout (blank.lineStart _)]
      exact readItems_write blank (blank.lineStart depth)
        (fun item inside => each item (List.mem_cons_of_mem _ inside))
        (fun item inside => ih item (List.mem_cons_of_mem _ inside))
        (ih item List.mem_cons_self) [] (by omega)
  | @obj room members unique each ih =>
    apply (Plain.obj unique each).readsBack_of_succ
    intro depth bound rest long
    cases members with
    | nil => rfl
    | cons member members =>
      obtain ⟨name, value⟩ := member
      simp only [write, List.length_cons, List.length_append] at long
      simp only [write, List.cons_append, List.append_assoc, List.nil_append]
      have first_plain : Plain room value := each _ List.mem_cons_self
      have first : ReadsBack half layout room value := ih _ List.mem_cons_self
      rw [readValue_object name (blank.lineStart _)]
      exact readMembers_write blank (blank.lineStart depth)
        (fun member inside => each member (List.mem_cons_of_mem _ inside))
        (fun member inside => ih member (List.mem_cons_of_mem _ inside))
        first_plain first [] unique (by omega)

theorem readWith_write (blank : layout.IsBlank) (plain : Plain room value) :
    readWith half room (value.write layout 0) = .ok value := by
  have back : ReadsBack half layout room value := plain.readsBack blank
  have back := back 0 (2 * (value.write layout 0).length + 2) [] (by omega)
  have whole := plain.skipLayout_write layout 0 []
  rw [List.append_nil] at back whole
  have unmarked : (value.write layout 0).head? ≠ some '\uFEFF' := by
    obtain ⟨c, opener, tail, write_eq⟩ := plain.exists_opener layout 0
    rw [write_eq]
    rintro mark
    obtain rfl := Option.some.inj mark
    exact absurd opener (by decide)
  rw [readWith, if_neg unmarked, whole, back]
  rfl

/-- A written value is read back from its whole text: whatever stands for halves of surrogate
pairs, none are written. -/
theorem read_write (blank : layout.IsBlank) (plain : Plain room value) :
    read room (value.write layout 0) = .ok value := by
  simp only [read, readWith_write blank plain]

/-! ## No carriage returns -/

theorem hexDigit_ne_return {code : Nat} (small : code < 16) : hexDigit code ≠ '\r' := by
  interval_cases code <;> decide

theorem return_not_mem_escapeChar (c : Char) : '\r' ∉ escapeChar c := by
  rw [escapeChar]
  split_ifs with marked feed carriage tab backspace page control
  · simp only [Bool.or_eq_true, decide_eq_true_eq] at marked
    rcases marked with rfl | rfl <;> decide
  · decide
  · decide
  · decide
  · decide
  · decide
  · have digit (code : Nat) : '\r' ≠ hexDigit (code % 16) :=
      (hexDigit_ne_return (Nat.mod_lt _ (by decide))).symm
    simp [hexDigits_four, digit]
  · simpa using Ne.symm carriage

theorem return_not_mem_writeText (text : String) : '\r' ∉ writeText text := by
  simp [writeText, return_not_mem_escapeChar]

theorem return_not_mem_lineStart (depth : Nat) : '\r' ∉ Layout.pretty.lineStart depth := by
  simp [Layout.pretty]

theorem writeItems_eq_flatMap (layout : Layout) (depth : Nat) (items : List Json) :
    writeItems layout depth items = items.flatMap fun item =>
      layout.comma ++ layout.lineStart depth ++ item.write layout depth := by
  induction items with
  | nil => rfl
  | cons item items ih => rw [writeItems, ih, List.flatMap_cons]

theorem writeMembers_eq_flatMap (layout : Layout) (depth : Nat) (members : List (String × Json)) :
    writeMembers layout depth members = members.flatMap fun member =>
      layout.comma ++ layout.lineStart depth ++ writeText member.1 ++ layout.colon ++
        member.2.write layout depth := by
  induction members with
  | nil => rfl
  | cons member members ih => rw [writeMembers, ih, List.flatMap_cons]

/-- Carriage returns are written as escapes, and none is put between the parts of a value. -/
theorem Plain.return_not_mem_write (plain : Plain room value) (depth : Nat) :
    '\r' ∉ value.write .pretty depth := by
  have comma : '\r' ∉ Layout.pretty.comma := by decide
  have colon : '\r' ∉ Layout.pretty.colon := by decide
  induction plain generalizing depth with
  | null => simp [write]
  | bool value => cases value <;> simp [write]
  | str text => exact return_not_mem_writeText text
  | @arr _ items each ih =>
    cases items with
    | nil => simp [write]
    | cons item items =>
      have first := ih item List.mem_cons_self (depth + 1)
      have others : '\r' ∉ writeItems .pretty (depth + 1) items := by
        simp only [writeItems_eq_flatMap, List.mem_flatMap, List.mem_append, not_exists, not_and,
          not_or]
        intro next inside
        exact ⟨⟨comma, return_not_mem_lineStart _⟩, ih next (List.mem_cons_of_mem _ inside) _⟩
      simp [write, return_not_mem_lineStart, first, others]
  | @obj _ members unique each ih =>
    cases members with
    | nil => simp [write]
    | cons member members =>
      have first := ih member List.mem_cons_self (depth + 1)
      have others : '\r' ∉ writeMembers .pretty (depth + 1) members := by
        simp only [writeMembers_eq_flatMap, List.mem_flatMap, List.mem_append, not_exists, not_and,
          not_or]
        intro next inside
        exact ⟨⟨⟨⟨comma, return_not_mem_lineStart _⟩, return_not_mem_writeText _⟩, colon⟩,
          ih next (List.mem_cons_of_mem _ inside) _⟩
      simp [write, return_not_mem_lineStart, return_not_mem_writeText, colon, first, others]

end Json

end Dialogue
