import BuildTelemetry.Exposition.Text
import BuildTelemetry.Toml.Reader

/-!
# Reading the text exposition back

A reader of the text form that gives back what was written: the families in order, each with its
name, its help, its type and its samples, each of these with its name, its label pairs and the text
of its value. Names are not escaped, so they must consist of the characters that the text format
allows. Nothing is asked of help texts and label values.

1. `decode` reads a whole text. `unescape` is its reader of escaped texts, with the table as a
   parameter, and `many` its reader of repeated items.
2. `Reads` is what a reader does with one written item and any text behind it that may follow.
   `Reads.bind` composes two of them, `reads_many` takes one item to a list of them.
3. `reads_unescape`: an escaped text is read up to the mark that ends it and no further.
4. `isValue_valueText`: a written value is one word.
5. `reads_sample`, `reads_family`: a written line, and the lines of a family, are read back.
6. `decode_encode`: so is the whole text.
-/

namespace BuildTelemetry.Exposition

open Toml (Reader)

/-! ## 1. The reader -/

/-- What a sample line says. -/
structure SampleText where
  name : String
  labels : List LabelPair
  value : String
deriving DecidableEq, Repr

/-- What the lines of a family say. -/
structure FamilyText where
  name : String
  help : String
  type : MetricType
  samples : List SampleText
deriving DecidableEq, Repr

/-- The characters that the text format allows in names. -/
def isNameChar (c : Char) : Bool := c.isAlphanum || c == '_' || c == ':'

/-- Reads the characters of a class that come next, at least one. -/
def word (p : Char → Bool) : Reader String := do
  let cs ← Reader.takeWhile p
  if cs.isEmpty then Reader.refuse else pure (String.ofList cs)

/-- Reads an escaped text up to the mark `stop`, which is taken as well. A backslash and a character
together stand for what `meaning` says of that character. -/
def unescape (stop : Char) (meaning : Char → Option Char) : Reader (List Char)
  | [] => none
  | c :: cs =>
    if c = stop then some ([], cs)
    else if c = '\\' then
      match cs with
      | [] => none
      | d :: cs => do
        let e ← meaning d
        let (text, rest) ← unescape stop meaning cs
        some (e :: text, rest)
    else do
      let (text, rest) ← unescape stop meaning cs
      some (c :: text, rest)

/-- What a character means behind a backslash in a help text. -/
def helpMeaning : Char → Option Char
  | '\\' => some '\\'
  | 'n' => some '\n'
  | _ => none

/-- What a character means behind a backslash in a label value. -/
def labelMeaning : Char → Option Char
  | '"' => some '"'
  | c => helpMeaning c

/-- Reads items for as long as `more` holds of what is left. An item that takes nothing is
refused, so that reading ends. -/
def many {α : Type} (more : List Char → Bool) (item : Reader α) : Reader (List α) := fun cs =>
  if more cs then
    match item cs with
    | none => none
    | some (a, rest) =>
      if rest.length < cs.length then do
        let (as, rest) ← many more item rest
        some (a :: as, rest)
      else none
  else some ([], cs)
termination_by cs => cs.length

def readLabel : Reader LabelPair := do
  let name ← word isNameChar
  Reader.expect "=\""
  let value ← unescape '"' labelMeaning
  return (name, String.ofList value)

/-- Reads label pairs in braces. Without an opening brace there are none. -/
def readLabels : Reader (List LabelPair) := do
  if ← Reader.accept "\x7b" then
    let first ← readLabel
    let others ← many (·.head? == some ',') (do Reader.expect ","; readLabel)
    Reader.expect "\x7d"
    return first :: others
  else
    return []

def readSample : Reader SampleText := do
  let name ← word isNameChar
  let labels ← readLabels
  Reader.expect " "
  let value ← word (!·.isWhitespace)
  Reader.expect "\n"
  return ⟨name, labels, value⟩

def readType : Reader MetricType := do
  let text ← word Char.isAlpha
  match [MetricType.counter, .gauge, .summary, .unknown].find? (·.text == text) with
  | some type => return type
  | none => Reader.refuse

/-- Reads the two comment lines of a family and every line behind them that begins with a name. -/
def readFamily : Reader FamilyText := do
  Reader.expect "# HELP "
  let name ← word isNameChar
  Reader.expect " "
  let help ← unescape '\n' helpMeaning
  Reader.expect "# TYPE "
  Reader.expect name
  Reader.expect " "
  let type ← readType
  Reader.expect "\n"
  let samples ← many (·.head?.any isNameChar) readSample
  return ⟨name, String.ofList help, type, samples⟩

/-- Reads a whole text. -/
def decode (text : String) : Option (List FamilyText) :=
  (many (!·.isEmpty) readFamily text.toList).map Prod.fst

/-! ## 2. What a reader reads -/

/-- In front of every text that may follow, `text` is read as `a` and nothing more is taken. -/
def Reads {α : Type} (r : Reader α) (text : List Char) (a : α) (follow : List Char → Prop) :
    Prop :=
  ∀ rest, follow rest → r (text ++ rest) = some (a, rest)

/-- Any text may follow. -/
def Anything (_ : List Char) : Prop := True

/-- A text of characters of one class, not empty. -/
def IsWord (p : Char → Bool) (s : String) : Prop :=
  s.toList ≠ [] ∧ ∀ c ∈ s.toList, p c = true

instance (p : Char → Bool) (s : String) : Decidable (IsWord p s) :=
  haveI : Decidable (∀ c ∈ s.toList, p c = true) := List.decidableBAll _ _
  inferInstanceAs (Decidable (_ ∧ _))

section Reads

variable {α β : Type} {r : Reader α} {a : α} {text : List Char} {follow : List Char → Prop}

theorem reads_pure (a : α) (follow : List Char → Prop) :
    Reads (pure a : Reader α) [] a follow := by
  intro rest _
  rfl

theorem Reads.bind {f : α → Reader β} {b : β} {more : List Char} {next : List Char → Prop}
    (hr : Reads r text a follow) (hf : Reads (f a) more b next)
    (hfollow : ∀ rest, next rest → follow (more ++ rest)) :
    Reads (r >>= f) (text ++ more) b next := by
  intro rest hrest
  show StateT.bind r f _ = _
  have hread := hr (more ++ rest) (hfollow rest hrest)
  simp only [StateT.bind, List.append_assoc, hread]
  exact hf rest hrest

/-- Nothing is asked of what follows a mark. -/
theorem Reads.andThen {f : α → Reader β} {b : β} {more : List Char} {next : List Char → Prop}
    (hr : Reads r text a Anything) (hf : Reads (f a) more b next) :
    Reads (r >>= f) (text ++ more) b next :=
  hr.bind hf fun _ _ => trivial

theorem Reads.mono {next : List Char → Prop} (hr : Reads r text a follow)
    (h : ∀ rest, next rest → follow rest) : Reads r text a next :=
  fun rest hrest => hr rest (h rest hrest)

theorem reads_accept (s : String) : Reads (Reader.accept s) s.toList true Anything := by
  intro rest _
  have hprefix : s.toList.isPrefixOf (s.toList ++ rest) = true :=
    List.isPrefixOf_iff_prefix.mpr ⟨rest, rfl⟩
  simp only [Reader.accept, hprefix, if_true, List.drop_left]

theorem reads_expect (s : String) : Reads (Reader.expect s) s.toList () Anything := by
  have h := (reads_accept s).andThen (f := fun b => if b then pure () else Reader.refuse)
    (reads_pure () Anything)
  rwa [List.append_nil] at h

/-- A word ends where a character of another class, or none, comes next. -/
theorem reads_word {p : Char → Bool} {s : String} (h : IsWord p s) :
    Reads (word p) s.toList s (fun rest => rest.head?.all (!p ·)) := by
  obtain ⟨hne, hp⟩ := h
  intro rest hrest
  have hnone : rest.takeWhile p = [] ∧ rest.dropWhile p = rest := by
    cases rest with
    | nil => exact ⟨rfl, rfl⟩
    | cons c cs =>
      have hc : p c = false := by simpa using hrest
      simp [hc]
  have htake : (s.toList ++ rest).takeWhile p = s.toList := by
    rw [List.takeWhile_append_of_pos hp, hnone.1, List.append_nil]
  have hdrop : (s.toList ++ rest).dropWhile p = rest := by
    rw [List.dropWhile_append_of_pos hp, hnone.2]
  have hempty : s.toList.isEmpty = false := by simpa using hne
  unfold word
  show StateT.bind _ _ _ = _
  simp only [StateT.bind, Reader.takeWhile, htake, hdrop, Option.bind_eq_bind, Option.bind_some,
    hempty, Bool.false_eq_true, if_false, String.ofList_toList]
  rfl

/-- Items are read one by one up to a text that is not the beginning of one. What may follow an
item must hold of the items themselves, because the next one comes behind it. -/
theorem reads_many (more : List Char → Bool) {items : List β} {enc : β → List Char} {val : β → α}
    (hread : ∀ b ∈ items, Reads r (enc b) (val b) follow)
    (hmore : ∀ b ∈ items, ∀ rest, more (enc b ++ rest) = true)
    (hne : ∀ b ∈ items, enc b ≠ [])
    (hnext : ∀ b ∈ items, ∀ rest, follow (enc b ++ rest)) :
    Reads (many more r) (items.flatMap enc) (items.map val)
      (fun rest => more rest = false ∧ follow rest) := by
  intro rest ⟨hstop, hrest⟩
  induction items with
  | nil => rw [many]; simp [hstop]
  | cons b bs ih =>
    have hbehind : follow (bs.flatMap enc ++ rest) := by
      cases bs with
      | nil => exact hrest
      | cons c cs =>
        rw [List.flatMap_cons, List.append_assoc]
        exact hnext c (List.mem_cons_of_mem _ List.mem_cons_self) _
    have hfirst := hread b List.mem_cons_self _ hbehind
    have hothers := ih (fun c hc => hread c (List.mem_cons_of_mem _ hc))
      (fun c hc => hmore c (List.mem_cons_of_mem _ hc))
      (fun c hc => hne c (List.mem_cons_of_mem _ hc))
      (fun c hc => hnext c (List.mem_cons_of_mem _ hc))
    have hpos : 0 < (enc b).length := List.length_pos_iff.mpr (hne b List.mem_cons_self)
    have hless : (bs.flatMap enc ++ rest).length < (enc b ++ (bs.flatMap enc ++ rest)).length := by
      simp only [List.length_append]
      omega
    rw [many, List.flatMap_cons, List.append_assoc]
    simp only [hmore b List.mem_cons_self, if_true, hfirst, hless, hothers]
    rfl

end Reads

/-! ## 3. Escaped texts -/

/-- How one character of a help text is written. -/
def helpEscape : Char → List Char
  | '\\' => ['\\', '\\']
  | '\n' => ['\\', 'n']
  | c => [c]

/-- How one character of a label value is written. -/
def labelEscape : Char → List Char
  | '"' => ['\\', '"']
  | c => helpEscape c

theorem escapeHelp_eq (cs : List Char) : escapeHelp cs = cs.flatMap helpEscape := by
  fun_induction escapeHelp cs with
  | case1 => rfl
  | case2 cs ih => simp [helpEscape, ih]
  | case3 cs ih => simp [helpEscape, ih]
  | case4 c cs hback hfeed ih => simp [helpEscape, ih]

theorem escapeLabel_eq (cs : List Char) : escapeLabel cs = cs.flatMap labelEscape := by
  fun_induction escapeLabel cs with
  | case1 => rfl
  | case2 cs ih => simp [labelEscape, helpEscape, ih]
  | case3 cs ih => simp [labelEscape, ih]
  | case4 cs ih => simp [labelEscape, helpEscape, ih]
  | case5 c cs hback hquote hfeed ih => simp [labelEscape, helpEscape, ih]

/-- A table of escapes is undone by `meaning`: a character is written behind a backslash under a
letter that means it, or as it is, if it is neither a backslash nor the mark `stop`. -/
def Undoes (stop : Char) (meaning : Char → Option Char) (escape : Char → List Char) : Prop :=
  ∀ c, (∃ d, escape c = ['\\', d] ∧ meaning d = some c) ∨
    (escape c = [c] ∧ c ≠ stop ∧ c ≠ '\\')

theorem helpMeaning_undoes : Undoes '\n' helpMeaning helpEscape := by
  intro c
  by_cases hback : c = '\\'
  · subst hback; exact .inl ⟨'\\', rfl, rfl⟩
  by_cases hfeed : c = '\n'
  · subst hfeed; exact .inl ⟨'n', rfl, rfl⟩
  · exact .inr ⟨by simp [helpEscape], hfeed, hback⟩

theorem labelMeaning_undoes : Undoes '"' labelMeaning labelEscape := by
  intro c
  by_cases hquote : c = '"'
  · subst hquote; exact .inl ⟨'"', rfl, rfl⟩
  obtain ⟨d, hesc, hmean⟩ | ⟨hesc, -, hback⟩ := helpMeaning_undoes c
  · refine .inl ⟨d, by simpa [labelEscape, hquote] using hesc, ?_⟩
    have hd : d ≠ '"' := by
      rintro rfl
      simp [helpMeaning] at hmean
    simpa [labelMeaning, hd] using hmean
  · exact .inr ⟨by simpa [labelEscape, hquote] using hesc, hquote, hback⟩

section Unescape

variable {stop : Char} {meaning : Char → Option Char} {cs text rest : List Char}

theorem unescape_stop : unescape stop meaning (stop :: rest) = some ([], rest) := by
  rw [unescape.eq_def]
  simp

theorem unescape_behind {d e : Char} (hstop : stop ≠ '\\') (hmean : meaning d = some e)
    (h : unescape stop meaning cs = some (text, rest)) :
    unescape stop meaning ('\\' :: d :: cs) = some (e :: text, rest) := by
  rw [unescape.eq_def]
  simp [hstop.symm, hmean, h]

theorem unescape_plain {c : Char} (hmark : c ≠ stop) (hback : c ≠ '\\')
    (h : unescape stop meaning cs = some (text, rest)) :
    unescape stop meaning (c :: cs) = some (c :: text, rest) := by
  rw [unescape.eq_def]
  simp [hmark, hback, h]

/-- The induction is on the characters of the text that was escaped, not on what is written: no
character of the text itself can be taken for the mark. -/
theorem reads_unescape {escape : Char → List Char} (hstop : stop ≠ '\\')
    (h : Undoes stop meaning escape) (cs : List Char) :
    Reads (unescape stop meaning) (cs.flatMap escape ++ [stop]) cs Anything := by
  intro rest _
  induction cs with
  | nil => exact unescape_stop
  | cons c cs ih =>
    rw [List.flatMap_cons, List.append_assoc, List.append_assoc]
    rw [List.append_assoc] at ih
    obtain ⟨d, hesc, hmean⟩ | ⟨hesc, hmark, hback⟩ := h c
    · rw [hesc]
      exact unescape_behind hstop hmean ih
    · rw [hesc]
      exact unescape_plain hmark hback ih

end Unescape

/-! ## 4. Written values -/

/-- A text without white space. -/
def Solid (s : String) : Prop := ∀ c ∈ s.toList, c.isWhitespace = false

instance (s : String) : Decidable (Solid s) := List.decidableBAll _ _

theorem Solid.append {s t : String} (hs : Solid s) (ht : Solid t) : Solid (s ++ t) := by
  intro c hc
  rw [String.toList_append, List.mem_append] at hc
  exact hc.elim (hs c) (ht c)

/-- A value can be read back as one word. -/
abbrev IsValue (s : String) : Prop := IsWord (!·.isWhitespace) s

theorem isValue_iff {s : String} : IsValue s ↔ s.toList ≠ [] ∧ Solid s := by
  simp [IsValue, IsWord, Solid]

theorem IsValue.solid {s : String} (h : IsValue s) : Solid s := (isValue_iff.mp h).2

theorem Solid.append_value {s t : String} (hs : Solid s) (ht : IsValue t) : IsValue (s ++ t) :=
  isValue_iff.mpr ⟨by simp [ht.1], hs.append ht.solid⟩

theorem IsValue.append {s t : String} (hs : IsValue s) (ht : Solid t) : IsValue (s ++ t) :=
  isValue_iff.mpr ⟨by simp [hs.1], hs.solid.append ht⟩

theorem isWhitespace_digitChar (d : Nat) : d.digitChar.isWhitespace = false := by
  simp only [Nat.digitChar, apply_ite Char.isWhitespace]
  simp [Char.isWhitespace]

theorem isWhitespace_of_isDigit {c : Char} (h : c.isDigit) : c.isWhitespace = false := by
  cases hc : c.isWhitespace with
  | false => rfl
  | true =>
    simp only [Char.isWhitespace, Bool.or_eq_true, decide_eq_true_eq] at hc
    obtain ((rfl | rfl) | rfl) | rfl := hc <;> revert h <;> decide

theorem solid_digitText (ds : List Nat) : Solid (Decimal.digitText ds) := by
  intro c hc
  rw [Decimal.digitText, String.toList_ofList] at hc
  obtain ⟨d, -, rfl⟩ := List.mem_map.mp hc
  exact isWhitespace_digitChar d

theorem solid_zeros (n : Nat) : Solid (Decimal.zeros n) := by
  intro c hc
  rw [Decimal.zeros, String.toList_ofList] at hc
  rw [List.eq_of_mem_replicate hc]
  decide

theorem isValue_repr (n : Nat) : IsValue n.repr := by
  refine isValue_iff.mpr ⟨?_, ?_⟩
  · rw [Nat.toList_repr]
    exact Nat.toDigits_ne_nil
  · intro c hc
    rw [Nat.toList_repr] at hc
    exact isWhitespace_of_isDigit (Nat.isDigit_of_mem_toDigits (by decide) (by decide) hc)

theorem isValue_toString (n : Int) : IsValue (toString n) := by
  rw [Int.toString_eq_repr]
  cases n with
  | ofNat m => exact isValue_repr m
  | negSucc m => exact (by decide : Solid "-").append_value (isValue_repr (m + 1))

/-- Each layout has a literal part, so it is not empty, whatever the digits are. -/
theorem isValue_layout (x : Decimal.Digits) : IsValue x.floating := by
  unfold Decimal.Digits.floating
  dsimp only
  have hpoint : IsValue "." := by decide
  split
  · exact ((solid_digitText _).append (solid_zeros _)).append_value (by decide)
  split
  · exact ((solid_digitText _).append_value hpoint).append (solid_digitText _)
  split
  · exact ((by decide : IsValue "0.").append (solid_zeros _)).append (solid_digitText _)
  · refine (((solid_digitText _).append ?_).append (by decide)).append_value (isValue_toString _)
    split
    · decide
    · exact hpoint.solid.append (solid_digitText _)

theorem isValue_floating (x : Float) : IsValue (Decimal.floating x) := by
  have hbody : IsValue (if (Double.parts x).mantissa = 0 then "0.0"
      else (Decimal.digits (Double.parts x)).floating) := by
    split
    · decide
    · exact isValue_layout _
  unfold Decimal.floating Decimal.signed
  dsimp only
  split
  · exact (by decide : Solid "-").append_value hbody
  · exact hbody

/-- A written value is not empty and has no white space in it, so it ends at the line feed. -/
theorem isValue_valueText (x : Float) : IsValue (valueText x) := by
  unfold valueText
  split
  · decide
  split
  · split <;> decide
  unfold finiteText
  split
  · split
    · exact isValue_toString _
    · exact isValue_floating x
  · exact isValue_floating x

/-! ## 5. Lines -/

/-- What the text says of a sample: of its value the text. -/
def sampleText (s : Sample) : SampleText := ⟨s.name, s.labels, valueText s.value⟩

/-- What the text says of a family: everything but the unit. -/
def familyText (f : MetricFamily) : FamilyText :=
  ⟨f.name, f.help, f.type, f.samples.map sampleText⟩

/-- A name that the text format allows. -/
abbrev IsName (s : String) : Prop := IsWord isNameChar s

theorem isNameChar_of_head {s : String} (h : IsName s) (rest : List Char) :
    (s.toList ++ rest).head?.any isNameChar = true := by
  cases hs : s.toList with
  | nil => exact absurd hs h.1
  | cons c cs => exact h.2 c (by rw [hs]; exact List.mem_cons_self)

theorem reads_label {pair : LabelPair} (h : IsName pair.1) :
    Reads readLabel (labelChars pair) pair Anything := by
  have hchars : labelChars pair = pair.1.toList ++
      ("=\"".toList ++ ((pair.2.toList.flatMap labelEscape ++ ['"']) ++ [])) := by
    simp [labelChars, escapeLabel_eq]
  rw [hchars]
  refine (reads_word h).bind (Reads.andThen (reads_expect _)
    (Reads.andThen (reads_unescape (by decide) labelMeaning_undoes _) ?_)) ?_
  · rw [String.ofList_toList]
    exact reads_pure pair Anything
  · intro rest _
    rfl

theorem reads_labels {labels : List LabelPair} (h : ∀ pair ∈ labels, IsName pair.1) :
    Reads readLabels (labelBlock labels) labels (fun rest => rest.head? = some ' ') := by
  cases labels with
  | nil =>
    intro rest hrest
    cases rest with
    | nil => simp at hrest
    | cons c cs =>
      obtain rfl : c = ' ' := by simpa using hrest
      rfl
  | cons first others =>
    have hchars : labelBlock (first :: others) = "\x7b".toList ++ (labelChars first ++
        (others.flatMap (fun pair => ',' :: labelChars pair) ++ ("\x7d".toList ++ []))) := by
      simp [labelBlock]
    have hother : ∀ pair ∈ others, Reads (do Reader.expect ","; readLabel)
        (',' :: labelChars pair) pair Anything := by
      intro pair hpair
      exact (reads_expect ",").andThen (reads_label (h pair (List.mem_cons_of_mem _ hpair)))
    have hothers := reads_many (·.head? == some ',') hother
      (fun _ _ _ => rfl) (fun _ _ => List.cons_ne_nil _ _) (fun _ _ _ => trivial)
    rw [List.map_id'] at hothers
    rw [hchars]
    refine Reads.andThen (reads_accept _) ?_
    refine Reads.andThen (reads_label (h first List.mem_cons_self)) ?_
    refine hothers.bind (Reads.andThen (reads_expect _) (reads_pure _ _)) ?_
    intro rest _
    exact ⟨rfl, trivial⟩

/-- The names that a sample is written with. -/
def SampleNamed (s : Sample) : Prop := IsName s.name ∧ ∀ pair ∈ s.labels, IsName pair.1

theorem reads_sample {s : Sample} (h : SampleNamed s) :
    Reads readSample (sampleLine s) (sampleText s) Anything := by
  obtain ⟨hname, hlabels⟩ := h
  have hline : sampleLine s = s.name.toList ++ (labelBlock s.labels ++
      (" ".toList ++ ((valueText s.value).toList ++ ("\n".toList ++ [])))) := by
    simp [sampleLine]
  rw [hline]
  refine (reads_word hname).bind ((reads_labels hlabels).bind (Reads.andThen (reads_expect _)
    ((reads_word (isValue_valueText s.value)).bind
      (Reads.andThen (reads_expect _) (reads_pure _ Anything)) ?_)) ?_) ?_
  · intro rest _
    rfl
  · intro rest _
    rfl
  · intro rest _
    cases s.labels with
    | nil => rfl
    | cons pair rest => rfl

theorem reads_type (t : MetricType) :
    Reads readType t.text.toList t (fun rest => rest.head? = some '\n') := by
  have hword : IsWord Char.isAlpha t.text := by cases t <;> decide
  have hfind : [MetricType.counter, .gauge, .summary, .unknown].find? (·.text == t.text) =
      some t := by
    cases t <;> rfl
  have hend : Reads (match some t with | some type => return type | none => Reader.refuse)
      [] t (fun rest => rest.head? = some '\n') := reads_pure _ _
  rw [← hfind] at hend
  rw [← List.append_nil t.text.toList]
  refine (reads_word hword).bind hend ?_
  intro rest hrest
  rw [List.nil_append, hrest]
  rfl

/-- The names that a family is written with. -/
def FamilyNamed (f : MetricFamily) : Prop :=
  IsName f.name ∧ ∀ s ∈ f.samples, SampleNamed s

/-- Behind a family the text ends or another comment line comes. -/
def EndsFamily (rest : List Char) : Prop := rest.head?.all (· == '#')

theorem reads_samples {samples : List Sample} (h : ∀ s ∈ samples, SampleNamed s) :
    Reads (many (·.head?.any isNameChar) readSample) (samples.flatMap sampleLine)
      (samples.map sampleText) EndsFamily := by
  have hmore : ∀ s ∈ samples, ∀ rest,
      (sampleLine s ++ rest).head?.any isNameChar = true := by
    intro s hs rest
    simp only [sampleLine, List.append_assoc]
    exact isNameChar_of_head (h s hs).1 _
  have hne : ∀ s ∈ samples, sampleLine s ≠ [] := by
    intro s _
    simp [sampleLine]
  refine (reads_many (·.head?.any isNameChar)
    (fun s hs => reads_sample (h s hs)) hmore hne (fun _ _ _ => trivial)).mono ?_
  intro rest hrest
  refine ⟨?_, trivial⟩
  cases rest with
  | nil => rfl
  | cons c cs =>
    obtain rfl : c = '#' := by simpa [EndsFamily] using hrest
    rfl

theorem reads_family {f : MetricFamily} (h : FamilyNamed f) :
    Reads readFamily (familyLines f) (familyText f) EndsFamily := by
  obtain ⟨hname, hsamples⟩ := h
  have hlines : familyLines f = "# HELP ".toList ++ (f.name.toList ++ (" ".toList ++
      ((f.help.toList.flatMap helpEscape ++ ['\n']) ++ ("# TYPE ".toList ++ (f.name.toList ++
      (" ".toList ++ (f.type.text.toList ++ ("\n".toList ++
      (f.samples.flatMap sampleLine ++ []))))))))) := by
    have hblank : " ".toList = [' '] := rfl
    have hfeed : "\n".toList = ['\n'] := rfl
    unfold familyLines helpLine typeLine
    rw [escapeHelp_eq, hblank, hfeed]
    simp only [List.append_assoc, List.cons_append, List.nil_append, List.append_nil]
  rw [hlines]
  refine Reads.andThen (reads_expect _) ((reads_word hname).bind ?_ ?_)
  · refine Reads.andThen (reads_expect _) ?_
    refine Reads.andThen (reads_unescape (by decide) helpMeaning_undoes _) ?_
    refine Reads.andThen (reads_expect _) (Reads.andThen (reads_expect _) ?_)
    refine Reads.andThen (reads_expect _) ?_
    refine (reads_type f.type).bind ?_ ?_
    · refine Reads.andThen (reads_expect _) ((reads_samples hsamples).bind ?_ ?_)
      · rw [String.ofList_toList]
        exact reads_pure _ _
      · intro rest hrest
        exact hrest
    · intro rest _
      rfl
  · intro rest _
    rfl

/-! ## 6. The whole text -/

/-- A text that was written from families with allowed names is read back as these families, in
order: for each of them its name, help and type, and for each sample its name, its label pairs in
order and the text of its value. Help texts and label values may be any text. -/
theorem decode_encode (families : List MetricFamily)
    (h : ∀ f ∈ families, FamilyNamed f) :
    decode (encode families) = some (families.map familyText) := by
  have hhead : ∀ f ∈ families, ∀ rest, EndsFamily (familyLines f ++ rest) := by
    intro f _ rest
    rfl
  have hread := reads_many (!·.isEmpty) (fun f hf => reads_family (h f hf))
    (fun _ _ _ => rfl) (fun _ _ => List.cons_ne_nil _ _) hhead
  have hall := hread [] ⟨rfl, rfl⟩
  rw [List.append_nil] at hall
  rw [decode, encode, String.toList_ofList, hall]
  rfl

/-- A family whose texts imitate the end of a value, a comment line and another sample. -/
def hostile : MetricFamily :=
  { name := "build:jobs_1"
    help := "C:\\new\n# TYPE forged gauge"
    type := .counter
    unit := none
    samples :=
      [⟨"build:jobs_1_total", [("job", "a\"\x7d 1\n# HELP forged \\"), ("empty", "")], 2⟩,
        ⟨"build:jobs_1_total", [], 0.5⟩] }

theorem decode_encode_hostile :
    (∀ f ∈ [hostile, hostile], FamilyNamed f) ∧
      decode (encode [hostile, hostile]) = some [familyText hostile, familyText hostile] := by
  have hnames : ∀ f ∈ [hostile, hostile], FamilyNamed f := by
    intro f hf
    obtain rfl : f = hostile := by simpa using hf
    refine ⟨by decide, ?_⟩
    intro s hs
    obtain rfl | rfl : s = ⟨"build:jobs_1_total", _, 2⟩ ∨ s = ⟨"build:jobs_1_total", [], 0.5⟩ := by
      simpa [hostile] using hs
    · exact ⟨by decide, by decide⟩
    · exact ⟨by decide, by decide⟩
  exact ⟨hnames, decode_encode [hostile, hostile] hnames⟩

end BuildTelemetry.Exposition
