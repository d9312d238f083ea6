import Mathlib
import RuleScript.Proofs.Text.Lowercase
import RuleScript.Proofs.Token.Scanning
import RuleScript.Scope.Signature

/-!
Which texts are signatures, and of what. The reader trims, cuts at commas and tests the pieces; the
rule for signatures (`Signature.Spells`) only says what is put together: a name, and in parentheses
the parameters with commas between them, with blanks around each. A text is read as a signature
exactly when it is one by the rule, and the text of a signature is read back as that signature.
-/
namespace RuleScript

namespace Text

/-- The text has nothing but blanks. -/
def Blank (text : List Char) : Prop :=
  ∀ c ∈ text, isBlank c = true

theorem blank_nil : Blank [] := fun _ among => by cases among

theorem blank_space : Blank [' '] := fun c among => by
  rw [List.mem_singleton.1 among]
  rfl

/-- The text is another one with blanks around it, and that one has no blank at its ends. -/
structure Trims (text inner : List Char) : Prop where
  around : ∃ before after, text = before ++ inner ++ after ∧ Blank before ∧ Blank after
  starts : ∀ c ∈ inner.head?, isBlank c = false
  ends : ∀ c ∈ inner.getLast?, isBlank c = false

theorem trimStart_append {before text : List Char} (blank : Blank before)
    (starts : ∀ c ∈ text.head?, isBlank c = false) : trimStart (before ++ text) = text :=
  (takeWhile_append_stopped blank starts).2

theorem trimEnd_append {text after : List Char} (blank : Blank after)
    (ends : ∀ c ∈ text.getLast?, isBlank c = false) : trimEnd (text ++ after) = text := by
  have reversed : Blank after.reverse := fun c among => blank c (List.mem_reverse.1 among)
  unfold trimEnd
  rw [List.reverse_append, (takeWhile_append_stopped reversed (by simpa using ends)).2,
    List.reverse_reverse]

theorem trimStart_spec (text : List Char) :
    (∃ before, Blank before ∧ text = before ++ trimStart text) ∧
      ∀ c ∈ (trimStart text).head?, isBlank c = false := by
  refine ⟨⟨text.takeWhile isBlank, fun c among => List.mem_takeWhile_imp among,
    List.takeWhile_append_dropWhile.symm⟩, fun c first => ?_⟩
  have stopped := List.head?_dropWhile_not isBlank text
  rw [show (text.dropWhile isBlank).head? = some c from first] at stopped
  exact stopped

theorem trimEnd_spec (text : List Char) :
    (∃ after, Blank after ∧ text = trimEnd text ++ after) ∧
      ∀ c ∈ (trimEnd text).getLast?, isBlank c = false := by
  obtain ⟨⟨before, blank, split⟩, starts⟩ := trimStart_spec text.reverse
  refine ⟨⟨before.reverse, fun c among => blank c (List.mem_reverse.1 among), ?_⟩, ?_⟩
  · have parts := congrArg List.reverse split
    rwa [List.reverse_reverse, List.reverse_append] at parts
  · intro c last
    rw [trimEnd, List.getLast?_reverse] at last
    exact starts c last

/-- Trimming gives the one text without blanks at its ends that the text has between blanks. -/
theorem trims_iff {text inner : List Char} : Trims text inner ↔ trimChars text = inner := by
  constructor
  · rintro ⟨⟨before, after, rfl, front, behind⟩, starts, ends⟩
    cases inner with
    | nil =>
      rw [trimChars_eq_nil_iff, List.append_nil]
      intro c among
      exact (List.mem_append.1 among).elim (front c) (behind c)
    | cons first others =>
      rw [trimChars, List.append_assoc, trimStart_append front (by simpa using starts),
        trimEnd_append behind ends]
  · rintro rfl
    obtain ⟨⟨before, front, opened⟩, starts⟩ := trimStart_spec text
    obtain ⟨⟨after, behind, closed⟩, ends⟩ := trimEnd_spec (trimStart text)
    refine ⟨⟨before, after, ?_, front, behind⟩, fun c first => starts c ?_, ends⟩
    · rw [List.append_assoc, trimChars, ← closed, ← opened]
    · have inner : (trimEnd (trimStart text)).head? = some c := first
      rw [closed, List.head?_append, inner]
      rfl

end Text

namespace Signature

/-- An ASCII letter. -/
def IsLetter (c : Char) : Prop :=
  ('A' ≤ c ∧ c ≤ 'Z') ∨ ('a' ≤ c ∧ c ≤ 'z')

/-- A letter or an underscore, and then letters, digits, underscores and points. -/
inductive IsIdentifier : List Char → Prop
  | intro {first : Char} {others : List Char} (starts : IsLetter first ∨ first = '_')
      (goesOn : ∀ c ∈ others, IsLetter c ∨ ('0' ≤ c ∧ c ≤ '9') ∨ c = '_' ∨ c = '.') :
      IsIdentifier (first :: others)

/-- A parameter is an identifier, or is left out. -/
def IsParameter (param : String) : Prop :=
  param = "" ∨ IsIdentifier param.toList

/-- What the text between the parentheses lists: no parameter where it is blank, else one in each
piece between commas. -/
inductive Lists (inner : List Char) : List String → Prop
  | none (blank : Text.Blank inner) : Lists inner []
  | some {pieces : List (List Char)} {params : List String} (present : ¬ Text.Blank inner)
      (joined : inner = [','].intercalate pieces) (nonempty : pieces ≠ [])
      (cut : ∀ piece ∈ pieces, ',' ∉ piece)
      (trimmed : List.Forall₂ (fun piece param => Text.Trims piece param.toList) pieces params)
      (allowed : ∀ param ∈ params, IsParameter param) : Lists inner params

/-- The rule for signatures. -/
inductive Spells (signature : Signature) : List Char → Prop
  | intro {before gap inner after : List Char} (front : Text.Blank before)
      (name : IsIdentifier signature.name.toList) (between : Text.Blank gap)
      (oneLine : '\n' ∉ inner) (params : Lists inner signature.params) (behind : Text.Blank after) :
      Spells signature
        (before ++ (signature.name.toList ++ (gap ++ '(' :: (inner ++ ')' :: after))))

theorem Spells.ofChars {before name gap inner after : List Char} {params : List String}
    (front : Text.Blank before) (named : IsIdentifier name) (between : Text.Blank gap)
    (oneLine : '\n' ∉ inner) (listed : Lists inner params) (behind : Text.Blank after) :
    Spells ⟨String.ofList name, params⟩
      (before ++ (name ++ (gap ++ '(' :: (inner ++ ')' :: after)))) := by
  have spelled : (String.ofList name).toList = name := String.toList_ofList
  generalize String.ofList name = word at spelled
  subst spelled
  exact .intro front named between oneLine listed behind

theorem isAlpha_iff (c : Char) : c.isAlpha = true ↔ IsLetter c := by
  simp only [Char.isAlpha, Char.isUpper, Char.isLower, Bool.or_eq_true, Bool.and_eq_true,
    decide_eq_true_eq]
  exact Iff.rfl

theorem isDigit_iff (c : Char) : c.isDigit = true ↔ '0' ≤ c ∧ c ≤ '9' := by
  simp only [Char.isDigit, Bool.and_eq_true, decide_eq_true_eq]
  exact Iff.rfl

theorem isName_iff (text : List Char) : isName text = true ↔ IsIdentifier text := by
  cases text with
  | nil =>
    constructor
    · intro named
      cases named
    · intro named
      cases named
  | cons first others =>
    have spelled : isName (first :: others) = true ↔ (IsLetter first ∨ first = '_') ∧
        ∀ c ∈ others, IsLetter c ∨ ('0' ≤ c ∧ c ≤ '9') ∨ c = '_' ∨ c = '.' := by
      simp [isName, startsName, continuesName, isAlpha_iff, isDigit_iff, or_assoc]
    rw [spelled]
    constructor
    · rintro ⟨starts, goesOn⟩
      exact .intro starts goesOn
    · rintro ⟨starts, goesOn⟩
      exact ⟨starts, goesOn⟩

theorem IsIdentifier.ne_nil {text : List Char} (named : IsIdentifier text) : text ≠ [] := by
  cases named
  exact List.cons_ne_nil _ _

theorem IsIdentifier.continues {text : List Char} (named : IsIdentifier text) :
    ∀ c ∈ text, continuesName c = true := by
  obtain ⟨starts, goesOn⟩ := named
  intro c among
  simp only [continuesName, Bool.or_eq_true, decide_eq_true_eq, isAlpha_iff, isDigit_iff]
  rcases List.mem_cons.1 among with rfl | later
  · tauto
  · have kind := goesOn c later
    tauto

/-- No blank, and none of the marks of a signature, is part of a name. -/
theorem continuesName_apart {c : Char} (goesOn : continuesName c = true) :
    Text.isBlank c = false ∧ c ≠ ',' ∧ c ≠ '(' ∧ c ≠ '\n' := by
  have code : (65 ≤ c.toNat ∧ c.toNat ≤ 90) ∨ (97 ≤ c.toNat ∧ c.toNat ≤ 122) ∨
      (48 ≤ c.toNat ∧ c.toNat ≤ 57) ∨ c.toNat = 95 ∨ c.toNat = 46 := by
    simp only [continuesName, Bool.or_eq_true, decide_eq_true_eq, Char.isAlpha, Char.isUpper,
      Char.isLower, Char.isDigit, Bool.and_eq_true, UInt32.le_iff_toNat_le, ge_iff_le] at goesOn
    rcases goesOn with (((upper | lower) | digit) | rfl) | rfl
    · exact .inl upper
    · exact .inr (.inl lower)
    · exact .inr (.inr (.inl digit))
    · decide
    · decide
  refine ⟨?_, ?_, ?_, ?_⟩
  · rw [Bool.eq_false_iff]
    intro blank
    simp only [Text.isBlank, Bool.or_eq_true, Bool.and_eq_true, decide_eq_true_eq] at blank
    omega
  all_goals
    rintro rfl
    revert code
    decide

theorem pieces_ne_nil (text : List Char) : pieces text ≠ [] := by
  fun_induction pieces text <;> simp

theorem comma_not_mem_pieces {text piece : List Char} (among : piece ∈ pieces text) :
    ',' ∉ piece := by
  fun_induction pieces text generalizing piece with
  | case1 => simp_all
  | case2 rest ih =>
    rcases List.mem_cons.1 among with rfl | later
    · simp
    · exact ih later
  | case3 c rest different first others cut ih =>
    rw [cut] at ih
    rcases List.mem_cons.1 among with rfl | later
    · have clear := ih List.mem_cons_self
      simp [clear, Ne.symm different]
    · exact ih (List.mem_cons_of_mem _ later)
  | case4 c rest different none ih => exact absurd none (pieces_ne_nil rest)

theorem intercalate_pieces (text : List Char) : [','].intercalate (pieces text) = text := by
  fun_induction pieces text with
  | case1 => rfl
  | case2 rest ih =>
    obtain ⟨first, others, cut⟩ := List.exists_cons_of_ne_nil (pieces_ne_nil rest)
    rw [cut] at ih ⊢
    rw [List.intercalate_cons_cons, ih]
    rfl
  | case3 c rest different first others cut ih =>
    rw [cut] at ih
    cases others with
    | nil => simpa using ih
    | cons second more =>
      rw [List.intercalate_cons_cons] at ih ⊢
      rw [← ih]
      rfl
  | case4 c rest different none ih => exact absurd none (pieces_ne_nil rest)

/-- The pieces are the only texts without commas that make up the text. -/
theorem pieces_eq_iff {text : List Char} {parts : List (List Char)} :
    pieces text = parts ↔
      text = [','].intercalate parts ∧ parts ≠ [] ∧ ∀ part ∈ parts, ',' ∉ part := by
  constructor
  · rintro rfl
    exact ⟨(intercalate_pieces text).symm, pieces_ne_nil text, fun _ => comma_not_mem_pieces⟩
  · rintro ⟨rfl, nonempty, cut⟩
    have parted := congrArg (List.splitOn ',') (intercalate_pieces ([','].intercalate parts))
    rwa [List.splitOn_intercalate ',' (fun _ => comma_not_mem_pieces) (pieces_ne_nil _),
      List.splitOn_intercalate ',' cut nonempty] at parted

theorem isParameter_iff (chars : List Char) :
    (chars.isEmpty || isName chars) = true ↔ IsParameter (String.ofList chars) := by
  rw [Bool.or_eq_true, isName_iff, List.isEmpty_iff, IsParameter, String.toList_ofList]
  simp

theorem trimmed_iff {parts : List (List Char)} {params : List String} :
    List.Forall₂ (fun piece param => Text.Trims piece param.toList) parts params ↔
      (parts.map Text.trimChars).map String.ofList = params := by
  have each (piece : List Char) (param : String) :
      Text.Trims piece param.toList ↔ String.ofList (Text.trimChars piece) = param := by
    rw [Text.trims_iff, ← String.toList_inj, String.toList_ofList]
  simp only [each]
  rw [← List.forall₂_map_left_iff (R := Eq), List.forall₂_eq_eq_eq, List.map_map]
  rfl

/-- The parameters that are read are those that the text lists. -/
theorem params?_eq_some_iff {inner : List Char} {params : List String} :
    params? inner = some params ↔ Lists inner params := by
  have empty : (Text.trimChars inner).isEmpty = true ↔ Text.Blank inner := by
    rw [List.isEmpty_iff, Text.trimChars_eq_nil_iff]
    exact Iff.rfl
  have passes : (((pieces inner).map Text.trimChars).all fun param =>
      param.isEmpty || isName param) = true ↔
      ∀ param ∈ ((pieces inner).map Text.trimChars).map String.ofList, IsParameter param := by
    simp only [List.all_eq_true, isParameter_iff, List.forall_mem_map]
  unfold params?
  dsimp only
  constructor
  · intro read
    split at read
    · next none =>
      cases read
      exact .none (empty.1 none)
    · next present =>
      split at read
      · next passed =>
        cases read
        obtain ⟨joined, nonempty, cut⟩ := pieces_eq_iff.1 (rfl : pieces inner = _)
        exact .some (mt empty.2 present) joined nonempty cut (trimmed_iff.2 rfl) (passes.1 passed)
      · cases read
  · intro listed
    cases listed with
    | none blank => rw [if_pos (empty.2 blank)]
    | some present joined nonempty cut trimmed allowed =>
      rw [pieces_eq_iff.2 ⟨joined, nonempty, cut⟩, trimmed_iff.1 trimmed] at passes
      rw [if_neg (mt empty.1 present), pieces_eq_iff.2 ⟨joined, nonempty, cut⟩,
        trimmed_iff.1 trimmed, if_pos (passes.2 allowed)]

theorem beforeClosing?_eq_some_iff {text inner : List Char} :
    beforeClosing? text = some inner ↔
      ∃ after, text = inner ++ ')' :: after ∧ Text.Blank after := by
  constructor
  · intro found
    obtain ⟨⟨after, blank, split⟩, -⟩ := Text.trimEnd_spec text
    unfold beforeClosing? at found
    split at found
    · next reversed closed =>
      cases found
      have ended := congrArg List.reverse closed
      rw [List.reverse_reverse, List.reverse_cons] at ended
      exact ⟨after, by rw [split, ended]; simp, blank⟩
    · cases found
  · rintro ⟨after, rfl, blank⟩
    have trimmed : Text.trimEnd (inner ++ ')' :: after) = inner ++ [')'] := by
      rw [List.append_cons]
      refine Text.trimEnd_append blank fun c last => ?_
      rw [List.getLast?_concat] at last
      cases last
      decide
    rw [beforeClosing?, trimmed]
    simp

/-- What is read is put together by the rule. -/
theorem spells_of_read? {text : List Char} {signature : Signature}
    (read : read? text = some signature) : signature.Spells text := by
  obtain ⟨⟨before, front, opened⟩, -⟩ := Text.trimStart_spec text
  obtain ⟨⟨gap, between, spaced⟩, -⟩ :=
    Text.trimStart_spec ((Text.trimStart text).dropWhile continuesName)
  unfold read? at read
  dsimp only at read
  split at read
  · next rest paren =>
    obtain ⟨inner, closed, checked⟩ := Option.bind_eq_some_iff.1 read
    obtain ⟨after, rfl, behind⟩ := beforeClosing?_eq_some_iff.1 closed
    split at checked
    · next allowed =>
      obtain ⟨params, listed, made⟩ := Option.bind_eq_some_iff.1 checked
      cases made
      simp only [Bool.and_eq_true, Bool.not_eq_true', List.contains_eq_mem,
        decide_eq_false_iff_not, isName_iff] at allowed
      have whole : before ++ ((Text.trimStart text).takeWhile continuesName ++
          (gap ++ '(' :: (inner ++ ')' :: after))) = text := by
        rw [← paren, ← spaced, List.takeWhile_append_dropWhile, ← opened]
      have spelled := Spells.ofChars front allowed.1 between allowed.2
        (params?_eq_some_iff.1 listed) behind
      rwa [whole] at spelled
    · cases checked
  · cases read

/-- What is put together by the rule is read. No character of a name is a blank or a parenthesis, so
the name ends where it was put, and the parenthesis that ends the parameters is the last one. -/
theorem Spells.read? {text : List Char} {signature : Signature} (spells : signature.Spells text) :
    Signature.read? text = some signature := by
  obtain ⟨front, name, between, oneLine, params, behind⟩ := spells
  next before gap inner after =>
  have opened : Text.trimStart (before ++ (signature.name.toList ++
      (gap ++ '(' :: (inner ++ ')' :: after)))) =
      signature.name.toList ++ (gap ++ '(' :: (inner ++ ')' :: after)) := by
    refine Text.trimStart_append front fun c first => ?_
    rw [List.head?_append_of_ne_nil _ name.ne_nil] at first
    exact (continuesName_apart (name.continues c (List.mem_of_mem_head? first))).1
  have stopped : ∀ c ∈ (gap ++ '(' :: (inner ++ ')' :: after)).head?, continuesName c = false := by
    intro c first
    rw [Bool.eq_false_iff]
    intro goesOn
    have apart := continuesName_apart goesOn
    cases gap with
    | nil =>
      cases first
      exact apart.2.2.1 rfl
    | cons d others =>
      cases first
      have blank := between c List.mem_cons_self
      rw [apart.1] at blank
      cases blank
  have named := takeWhile_append_stopped name.continues stopped
  have spaced : Text.trimStart (gap ++ '(' :: (inner ++ ')' :: after)) =
      '(' :: (inner ++ ')' :: after) := by
    refine Text.trimStart_append between fun c first => ?_
    cases first
    decide
  have closed : beforeClosing? (inner ++ ')' :: after) = some inner :=
    beforeClosing?_eq_some_iff.2 ⟨after, rfl, behind⟩
  unfold Signature.read?
  simp only [opened, named.1, named.2, spaced, closed, Option.bind_eq_bind, Option.bind_some,
    (isName_iff _).2 name, params?_eq_some_iff.2 params, List.contains_eq_mem, oneLine,
    decide_false, Bool.not_false, Bool.and_self, if_true, String.ofList_toList]
  rfl

theorem read?_eq_some_iff {text : List Char} {signature : Signature} :
    Signature.read? text = some signature ↔ signature.Spells text :=
  ⟨spells_of_read?, Spells.read?⟩

/-- With a blank behind each comma the pieces are the same, but for these blanks. -/
theorem intercalate_spaced (first : List Char) (others : List (List Char)) :
    [',', ' '].intercalate (first :: others) =
      [','].intercalate (first :: others.map (' ' :: ·)) := by
  induction others generalizing first with
  | nil => rfl
  | cons second more ih =>
    rw [List.intercalate_cons_cons, List.map_cons, List.intercalate_cons_cons, ih]
    cases more <;> simp [List.intercalate_cons_cons]

theorem mem_intercalate {c : Char} {separator : List Char} {parts : List (List Char)}
    (among : c ∈ separator.intercalate parts) : c ∈ separator ∨ ∃ part ∈ parts, c ∈ part := by
  induction parts with
  | nil => cases among
  | cons first others ih =>
    cases others with
    | nil => exact .inr ⟨first, List.mem_cons_self, by simpa using among⟩
    | cons second more =>
      rw [List.intercalate_cons_cons, List.mem_append, List.mem_append] at among
      rcases among with (inFirst | between) | later
      · exact .inr ⟨first, List.mem_cons_self, inFirst⟩
      · exact .inl between
      · rcases ih later with between | ⟨part, listed, inPart⟩
        · exact .inl between
        · exact .inr ⟨part, List.mem_cons_of_mem _ listed, inPart⟩

namespace IsParameter

variable {param : String}

theorem continues (allowed : IsParameter param) : ∀ c ∈ param.toList, continuesName c = true := by
  rcases allowed with rfl | named
  · simp
  · exact named.continues

theorem comma_not_mem (allowed : IsParameter param) : ',' ∉ param.toList := fun among =>
  (continuesName_apart (allowed.continues _ among)).2.1 rfl

theorem trims (allowed : IsParameter param) {before : List Char} (front : Text.Blank before) :
    Text.Trims (before ++ param.toList) param.toList := by
  have clear : ∀ c ∈ param.toList, Text.isBlank c = false := fun c among =>
    (continuesName_apart (allowed.continues c among)).1
  refine ⟨⟨before, [], by simp, front, Text.blank_nil⟩, fun c first => ?_, fun c last => ?_⟩
  · exact clear c (List.mem_of_mem_head? first)
  · exact clear c (List.mem_of_mem_getLast? last)

end IsParameter

/-- Parameters that are written with commas and blanks between them are listed again, unless all
that is written is one that was left out. -/
theorem lists_intercalate {params : List String} (allowed : ∀ param ∈ params, IsParameter param)
    (written : params ≠ [""]) : Lists (", ".intercalate params).toList params := by
  rw [String.toList_intercalate]
  cases params with
  | nil => exact .none Text.blank_nil
  | cons first others =>
    have separator : ", ".toList = [',', ' '] := rfl
    rw [separator, List.map_cons, intercalate_spaced]
    refine .some ?_ rfl (List.cons_ne_nil _ _) ?_ ?_ allowed
    · intro blank
      cases others with
      | nil =>
        obtain ⟨c, rest, spelled⟩ := List.exists_cons_of_ne_nil
          (show first.toList ≠ [] by simpa using written)
        have among : c ∈ first.toList := by rw [spelled]; exact List.mem_cons_self
        have clear := continuesName_apart ((allowed first List.mem_cons_self).continues c among)
        have unclear := blank c (by simpa using among)
        rw [clear.1] at unclear
        cases unclear
      | cons second more =>
        have comma := blank ',' (by simp [List.intercalate_cons_cons])
        revert comma
        decide
    · intro piece among
      rcases List.mem_cons.1 among with rfl | later
      · exact (allowed first List.mem_cons_self).comma_not_mem
      · simp only [List.mem_map, exists_exists_and_eq_and] at later
        obtain ⟨param, listed, rfl⟩ := later
        simpa using (allowed param (List.mem_cons_of_mem _ listed)).comma_not_mem
    · refine .cons ((allowed first List.mem_cons_self).trims Text.blank_nil) ?_
      rw [List.forall₂_map_left_iff, List.forall₂_map_left_iff, List.forall₂_same]
      intro param listed
      exact (allowed param (List.mem_cons_of_mem _ listed)).trims Text.blank_space

theorem parse_eq_ok_iff {text : String} {signature : Signature} :
    parse text = .ok signature ↔ signature.Spells text.toList := by
  rw [← read?_eq_some_iff, parse]
  cases read? text.toList <;> simp

theorem parse_eq_error_iff {text : String} {error : EvalError} :
    parse text = .error error ↔
      error = .invalidSignature text ∧ ∀ signature : Signature, ¬ signature.Spells text.toList := by
  simp only [← read?_eq_some_iff, parse]
  cases read? text.toList <;> simp [eq_comm]

/-- The text of a signature: its name, and its parameters with commas between them. -/
def toText (signature : Signature) : String :=
  signature.name ++ "(" ++ ", ".intercalate signature.params ++ ")"

/-- The text of a signature spells it. -/
theorem spells_toText {signature : Signature} (name : IsIdentifier signature.name.toList)
    (allowed : ∀ param ∈ signature.params, IsParameter param) (written : signature.params ≠ [""]) :
    signature.Spells signature.toText.toList := by
  have oneLine : '\n' ∉ (", ".intercalate signature.params).toList := by
    rw [String.toList_intercalate]
    intro among
    rcases mem_intercalate among with between | ⟨part, listed, inPart⟩
    · revert between
      decide
    · obtain ⟨param, named, rfl⟩ := List.mem_map.1 listed
      exact (continuesName_apart ((allowed param named).continues _ inPart)).2.2.2 rfl
  have spelled := Spells.intro Text.blank_nil name Text.blank_nil oneLine
    (lists_intercalate allowed written) Text.blank_nil
  simpa [toText] using spelled

/-- A text is read as a signature exactly when it spells one, and then as the one it spells; any
other text is refused with itself. The text of a signature spells that signature. -/
theorem signatures_exact :
    (∀ (text : String) (signature : Signature),
      parse text = .ok signature ↔ signature.Spells text.toList) ∧
    (∀ (text : String) (error : EvalError), parse text = .error error ↔
      error = .invalidSignature text ∧ ∀ signature : Signature, ¬ signature.Spells text.toList) ∧
    ∀ signature : Signature, IsIdentifier signature.name.toList →
      (∀ param ∈ signature.params, IsParameter param) → signature.params ≠ [""] →
      parse signature.toText = .ok signature :=
  ⟨fun _ _ => parse_eq_ok_iff, fun _ _ => parse_eq_error_iff, fun _ name allowed written =>
    parse_eq_ok_iff.2 (spells_toText name allowed written)⟩

theorem signatures_exact_blank_ends :
    Spells ⟨"pick", ["", "b", ""]⟩ "\u3000pick\n(,\tb\u00A0, ) ".toList ∧
      IsIdentifier "pick".toList ∧ (∀ param ∈ ["", "b", ""], IsParameter param) ∧
      parse "pick(, b, )" = .ok ⟨"pick", ["", "b", ""]⟩ := by
  have name : IsIdentifier "pick".toList := (isName_iff _).1 (by decide)
  have allowed : ∀ param ∈ ["", "b", ""], IsParameter param := by
    have named : IsIdentifier ['b'] := (isName_iff _).1 (by decide)
    simpa [IsParameter] using named
  exact ⟨(signatures_exact.1 _ _).1 (by rfl), name, allowed,
    signatures_exact.2.2 ⟨"pick", ["", "b", ""]⟩ name allowed (by decide)⟩

end Signature
end RuleScript
