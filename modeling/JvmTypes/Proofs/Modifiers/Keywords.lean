import JvmTypes.Modifiers.Text
import JvmTypes.Proofs.Modifiers.Bits
import Mathlib.Data.List.Nodup
/-!
# The keywords in the text of a modifier word

The flags with a keyword are the twelve low bits of a word. No keyword has a space in it and none
lies within another, so a text is read back in one way only: cut at its spaces it gives the
keywords of the word, and a keyword is found in it only where it was written. Two words have one
text exactly if they agree on the low bits, whatever their other bits are, and the text of a
union or of a difference has the keywords that the two texts lead one to expect (`text_decodes`).
-/

namespace JvmTypes

/-! ## Words between separators -/

namespace Text

variable {sep : Char} {word : List Char}

theorem infix_cons_iff_of_not_mem (hsep : sep ∉ word) {s : List Char} :
    word <:+: sep :: s ↔ word <:+: s := by
  constructor
  · intro h
    rcases List.infix_cons_iff.1 h with hprefix | hwithin
    · rcases List.prefix_cons_iff.1 hprefix with rfl | ⟨rest, rfl, _⟩
      · exact List.nil_infix
      · exact absurd List.mem_cons_self hsep
    · exact hwithin
  · exact List.infix_cons

theorem infix_append_cons_iff (hsep : sep ∉ word) {s t : List Char} :
    word <:+: s ++ sep :: t ↔ word <:+: s ∨ word <:+: t := by
  rw [List.infix_append_iff_ne_nil, infix_cons_iff_of_not_mem hsep]
  constructor
  · rintro (hs | ht | ⟨front, back, _, hback, rfl, _, hprefix⟩)
    · exact .inl hs
    · exact .inr ht
    · -- the back of the word would start with the separator
      rcases List.prefix_cons_iff.1 hprefix with rfl | ⟨rest, rfl, _⟩
      · exact absurd rfl hback
      · exact absurd (List.mem_append_right front List.mem_cons_self) hsep
  · rintro (hs | ht)
    · exact .inl hs
    · exact .inr (.inl ht)

/-- A word is found among joined parts only within one of them. -/
theorem infix_intercalate_iff (hsep : sep ∉ word) (hword : word ≠ [])
    {parts : List (List Char)} :
    word <:+: [sep].intercalate parts ↔ ∃ part ∈ parts, word <:+: part := by
  induction parts with
  | nil => simp [hword]
  | cons part rest ih =>
      cases rest with
      | nil => simp
      | cons next rest =>
          have hcut : [sep].intercalate (part :: next :: rest) =
              part ++ sep :: [sep].intercalate (next :: rest) := by simp
          rw [hcut, infix_append_cons_iff hsep, ih]
          simp

/-! ## Words written one after another -/

/-- A line in the making: what has been written, and whether the next word is the first. -/
structure Line where
  written : String
  first : Bool

namespace Line

def blank : Line := ⟨"", true⟩

def opened (line : Line) : String :=
  if line.first then line.written else line.written ++ " "

def write (line : Line) (word : String) : Line :=
  ⟨line.opened ++ word, false⟩

theorem written_foldl_write {words : List String} (h : words ≠ []) (line : Line) :
    (words.foldl write line).written = line.opened ++ " ".intercalate words := by
  induction words generalizing line with
  | nil => exact absurd rfl h
  | cons word rest ih =>
      cases rest with
      | nil => simp [write]
      | cons next rest =>
          rw [List.foldl_cons, ih (List.cons_ne_nil next rest), String.intercalate_cons_cons]
          simp [write, opened, String.append_assoc]

end Line

end Text

/-! ## The table of keywords -/

namespace Flag

def keywords : List String :=
  keywordOrder.map (·.2)

theorem nodup_keywords : keywords.Nodup := by decide

theorem empty_not_mem_keywords : "" ∉ keywords := by decide

theorem space_not_mem_keyword : ∀ w ∈ keywords, ' ' ∉ w.toList := by decide

theorem eq_of_infix_keyword :
    ∀ v ∈ keywords, ∀ w ∈ keywords, v.toList <:+: w.toList → v = w := by decide +kernel

theorem position_lt_of_keyword : ∀ entry ∈ keywordOrder, entry.1.position < 12 := by decide

theorem exists_keyword_of_position :
    ∀ i < 12, ∃ entry ∈ keywordOrder, entry.1.position = i := by decide

theorem mem_keywords {f : Flag} {w : String} (h : (f, w) ∈ keywordOrder) : w ∈ keywords :=
  List.mem_map_of_mem h

theorem eq_of_same_keyword {f g : Flag} {w : String} (hf : (f, w) ∈ keywordOrder)
    (hg : (g, w) ∈ keywordOrder) : f = g :=
  congrArg Prod.fst (List.inj_on_of_nodup_map nodup_keywords hf hg rfl)

end Flag

namespace Modifiers

variable {a b m : Modifiers} {f : Flag} {w : String}

/-! ## The keywords of a word -/

theorem mem_keywords_iff (h : (f, w) ∈ Flag.keywordOrder) :
    w ∈ m.keywords ↔ m.bit f.position = true := by
  simp only [keywords, List.mem_map, List.mem_filter, has_eq_bit]
  constructor
  · rintro ⟨⟨g, _⟩, ⟨hg, hbit⟩, rfl⟩
    rw [Flag.eq_of_same_keyword h hg]
    exact hbit
  · intro hbit
    exact ⟨(f, w), ⟨h, hbit⟩, rfl⟩

theorem keywords_sublist (m : Modifiers) : m.keywords.Sublist Flag.keywords :=
  List.filter_sublist.map _

theorem keywords_eq_iff : a.keywords = b.keywords ↔ ∀ i < 12, a.bit i = b.bit i := by
  constructor
  · intro h i hi
    obtain ⟨⟨f, w⟩, hentry, rfl⟩ := Flag.exists_keyword_of_position i hi
    rw [Bool.eq_iff_iff, ← mem_keywords_iff hentry, h, mem_keywords_iff hentry]
  · intro h
    rw [keywords, keywords]
    congr 1
    apply List.filter_congr
    intro entry hentry
    rw [has_eq_bit, has_eq_bit]
    exact h _ (Flag.position_lt_of_keyword entry hentry)

theorem mem_keywords_union (h : (f, w) ∈ Flag.keywordOrder) :
    w ∈ (a ∪ b).keywords ↔ w ∈ a.keywords ∨ w ∈ b.keywords := by
  simp only [mem_keywords_iff h, bit_union, Bool.or_eq_true]

theorem mem_keywords_sdiff (h : (f, w) ∈ Flag.keywordOrder) :
    w ∈ (a \ b).keywords ↔ w ∈ a.keywords ∧ w ∉ b.keywords := by
  simp only [mem_keywords_iff h, bit_sdiff, Bool.and_eq_true, Bool.not_eq_true',
    Bool.not_eq_true]

/-! ## Reading the text -/

theorem toList_text (m : Modifiers) :
    m.text.toList = [' '].intercalate (m.keywords.map String.toList) :=
  String.toList_intercalate

theorem written_eq_text (m : Modifiers) :
    (m.keywords.foldl Text.Line.write Text.Line.blank).written = m.text := by
  by_cases h : m.keywords = []
  · rw [text, h]
    rfl
  · have hopened : Text.Line.blank.opened = "" := rfl
    rw [Text.Line.written_foldl_write h, hopened, String.empty_append, text]

/-- A keyword is found in the text only where it was written. -/
theorem contains_text_iff (hw : w ∈ Flag.keywords) :
    m.text.contains w = true ↔ w ∈ m.keywords := by
  have hspace : ' ' ∉ w.toList := Flag.space_not_mem_keyword w hw
  have hne : w.toList ≠ [] := by
    rw [ne_eq, String.toList_eq_nil_iff]
    rintro rfl
    exact Flag.empty_not_mem_keywords hw
  rw [String.contains_string_iff, toList_text, Text.infix_intercalate_iff hspace hne]
  constructor
  · rintro ⟨part, hpart, hwithin⟩
    obtain ⟨v, hv, rfl⟩ := List.mem_map.1 hpart
    rw [Flag.eq_of_infix_keyword w hw v (m.keywords_sublist.subset hv) hwithin]
    exact hv
  · intro h
    exact ⟨w.toList, List.mem_map_of_mem h, List.infix_rfl⟩

theorem split_text (m : Modifiers) :
    (m.text.split ' ').toList.map (·.copy) = if m.keywords = [] then [""] else m.keywords := by
  have hspaces : ∀ w ∈ m.keywords, ' ' ∉ w.toList := by
    intro w hw
    exact Flag.space_not_mem_keyword w (m.keywords_sublist.subset hw)
  have htext : m.text = (String.singleton ' ').intercalate m.keywords := rfl
  rw [htext, String.toList_split_intercalate hspaces]

theorem text_eq_empty_iff : m.text = "" ↔ m.keywords = [] := by
  constructor
  · intro h
    rw [List.eq_nil_iff_forall_not_mem]
    intro w hw
    have hkeyword : w ∈ Flag.keywords := m.keywords_sublist.subset hw
    have hwithin := (contains_text_iff hkeyword).2 hw
    rw [h, String.contains_string_iff, String.toList_empty, List.infix_nil,
      String.toList_eq_nil_iff] at hwithin
    exact Flag.empty_not_mem_keywords (hwithin ▸ hkeyword)
  · intro h
    rw [text, h, String.intercalate_nil]

theorem text_eq_iff : a.text = b.text ↔ a.keywords = b.keywords := by
  constructor
  · intro h
    have hempty : a.keywords = [] ↔ b.keywords = [] := by
      rw [← text_eq_empty_iff, h, text_eq_empty_iff]
    by_cases ha : a.keywords = []
    · rw [ha, hempty.1 ha]
    · have hb : b.keywords ≠ [] := mt hempty.2 ha
      calc a.keywords = (a.text.split ' ').toList.map (·.copy) := by rw [split_text, if_neg ha]
        _ = (b.text.split ' ').toList.map (·.copy) := by rw [h]
        _ = b.keywords := by rw [split_text, if_neg hb]
  · intro h
    rw [text, h, text]

/-! ## The bits with a keyword -/

def keywordBits : Modifiers := ⟨0x0fff⟩

@[simp] theorem bit_keywordBits (i : Nat) : keywordBits.bit i = decide (i < 12) := by
  have hmask : keywordBits.bits.toBitVec = BitVec.ofNat 32 (2 ^ 12 - 1) := rfl
  rw [bit, hmask, BitVec.getLsbD_ofNat, Nat.testBit_two_pow_sub_one, Bool.and_eq_right_iff_imp,
    decide_eq_true_eq, decide_eq_true_eq]
  omega

theorem lowBits_eq_iff :
    a.bits &&& 0x0fff = b.bits &&& 0x0fff ↔ ∀ i < 12, a.bit i = b.bit i := by
  have hword : a.bits &&& 0x0fff = b.bits &&& 0x0fff ↔ a ∩ keywordBits = b ∩ keywordBits :=
    ⟨congrArg Modifiers.mk, congrArg Modifiers.bits⟩
  rw [hword]
  constructor
  · intro h i hi
    have hbit : (a ∩ keywordBits).bit i = (b ∩ keywordBits).bit i := by rw [h]
    simpa [hi] using hbit
  · intro h
    apply ext_bit
    intro i
    by_cases hi : i < 12
    · simp [h i hi]
    · simp [hi]

theorem text_eq_iff_lowBits : a.text = b.text ↔ a.bits &&& 0x0fff = b.bits &&& 0x0fff := by
  rw [text_eq_iff, keywords_eq_iff, lowBits_eq_iff]

theorem text_of_lowBits_eq_zero {rest : Modifiers} (h : rest.bits &&& 0x0fff = 0) :
    (m ∪ rest).text = m.text ∧ (m \ rest).text = m.text := by
  have hrest : ∀ i < 12, rest.bit i = false := by
    intro i hi
    have hbits : rest.bits &&& 0x0fff = empty.bits &&& 0x0fff := h
    rw [lowBits_eq_iff.1 hbits i hi, bit_empty]
  rw [text_eq_iff, text_eq_iff, keywords_eq_iff, keywords_eq_iff]
  constructor
  · intro i hi
    rw [bit_union, hrest i hi, Bool.or_false]
  · intro i hi
    rw [bit_sdiff, hrest i hi, Bool.not_false, Bool.and_true]

/-! ## The text and the word -/

/-- **Reading the text of a modifier word.** The text is the keywords written one after another,
with a space before each but the first. It is empty exactly if there are none, and cut at its
spaces it is the list of them otherwise, with none of them twice and in their order of writing. A
keyword is in the list exactly if its bit is set, and in the text exactly if it is in the list.
Two words have one text exactly if they agree on the low twelve bits. The keywords in the text of
a union are those of either text, and the keywords in the text of a difference are those of the
first text that the second has not. All other bits, with a name or without, leave the text as it
is. -/
theorem text_decodes (a b : Modifiers) :
    (a.keywords.foldl Text.Line.write Text.Line.blank).written = a.text ∧
    (a.text = "" ↔ a.keywords = []) ∧
    (a.keywords ≠ [] → (a.text.split ' ').toList.map (·.copy) = a.keywords) ∧
    a.keywords.Nodup ∧
    a.keywords.Sublist ["public", "protected", "private", "abstract", "static", "final",
      "transient", "volatile", "synchronized", "native", "strictfp", "interface"] ∧
    (a.text = b.text ↔ a.bits &&& 0x0fff = b.bits &&& 0x0fff) ∧
    (∀ f w, (f, w) ∈ Flag.keywordOrder →
      (w ∈ a.keywords ↔ a.bit f.position = true) ∧
      (a.text.contains w = true ↔ w ∈ a.keywords) ∧
      ((a ∪ b).text.contains w = true ↔ a.text.contains w = true ∨ b.text.contains w = true) ∧
      ((a \ b).text.contains w = true ↔ a.text.contains w = true ∧ b.text.contains w = false)) ∧
    (∀ rest : Modifiers, rest.bits &&& 0x0fff = 0 →
      (a ∪ rest).text = a.text ∧ (a \ rest).text = a.text) := by
  have hsplit : a.keywords ≠ [] → (a.text.split ' ').toList.map (·.copy) = a.keywords := by
    intro h
    rw [split_text, if_neg h]
  refine ⟨a.written_eq_text, text_eq_empty_iff, hsplit,
    Flag.nodup_keywords.sublist a.keywords_sublist, a.keywords_sublist, text_eq_iff_lowBits, ?_,
    fun _ => text_of_lowBits_eq_zero⟩
  intro f w h
  have hw : w ∈ Flag.keywords := Flag.mem_keywords h
  refine ⟨mem_keywords_iff h, contains_text_iff hw, ?_, ?_⟩
  · rw [contains_text_iff hw, contains_text_iff hw, contains_text_iff hw, mem_keywords_union h]
  · rw [← Bool.not_eq_true, contains_text_iff hw, contains_text_iff hw, contains_text_iff hw,
      mem_keywords_sdiff h]

/-- Two words with a flag in common, and with flags that have no keyword and bits that have no
name.
-/
theorem text_decodes_among_unnamed_bits :
    let a : Modifiers := ⟨0x80004611⟩
    let b : Modifiers := ⟨0x00041018⟩
    let rest : Modifiers := ⟨0x4000d000⟩
    a.keywords ≠ [] ∧
      (a.text.split ' ').toList.map (·.copy) = ["public", "abstract", "final", "interface"] ∧
      (Flag.final, "final") ∈ Flag.keywordOrder ∧ a.text.contains "final" = true ∧
      (a \ b).text.contains "final" = false ∧
      rest.bits &&& 0x0fff = 0 ∧ (a ∪ rest).text = a.text := by
  intro a b rest
  have hlist : a.keywords = ["public", "abstract", "final", "interface"] := by decide
  have hne : a.keywords ≠ [] := by simp [hlist]
  have hfinal : (Flag.final, "final") ∈ Flag.keywordOrder := by decide
  have hlow : rest.bits &&& 0x0fff = 0 := by decide
  obtain ⟨_, _, hsplit, _, _, _, hkeyword, hrest⟩ := text_decodes a b
  obtain ⟨_, hfound, _, hremoved⟩ := hkeyword .final "final" hfinal
  have hb : b.text.contains "final" = true :=
    (contains_text_iff (Flag.mem_keywords hfinal)).2 (by decide)
  have hgone : (a \ b).text.contains "final" = false := by
    rw [← Bool.not_eq_true, hremoved, hb]
    simp
  exact ⟨hne, (hsplit hne).trans hlist, hfinal, hfound.2 (by simp [hlist]), hgone, hlow,
    (hrest rest hlow).1⟩

end Modifiers

end JvmTypes
