import Mathlib.Data.List.Basic
import Mathlib.Data.List.TakeWhile
import TableQuery.Proofs.Decimals
import TableQuery.Assumed.Toml.Document
/-!
# Plain documents

Documents of bare keys and decimal integers, line by line and with any blanks and comments. A document is read as
the statements its lines make (`readDocument_documentText`): what stands around them is passed over, and no
statement takes anything from the next line.
-/

namespace TableQuery.Toml

/-! ## Texts -/

def Blank (cs : List Char) : Prop := ∀ c ∈ cs, isBlank c = true

theorem blank_nil : Blank [] := List.forall_mem_nil _

/-- A key without quotes, and the blanks around it. -/
structure PlainKey where
  before : List Char
  name : String
  after : List Char
  blank_before : Blank before
  name_ne : name ≠ ""
  isBare : ∀ c ∈ name.toList, isBareChar c = true
  blank_after : Blank after

/-- Keys with points between them. -/
structure PlainPath where
  keys : List PlainKey
  ne_nil : keys ≠ []
  length_le : keys.length ≤ maxNesting

/-- What a line says: nothing, the path of a table behind some blanks, or a path with its number, in front of which
stand blanks too. -/
inductive LineBody
  | empty
  | header (before : List Char) (blank_before : Blank before) (path : PlainPath)
  | assign (path : PlainPath) (gap : List Char) (blank_gap : Blank gap) (n : Nat)

/-- A line with the blanks and the comment at its end, and which break comes after it. -/
structure Line where
  body : LineBody
  after : List Char
  comment : Option (List Char)
  carriageReturn : Bool
  blank_after : Blank after
  isText_comment : ∀ text, comment = some text → ∀ c ∈ text, isText c = true

/-- A key with no blanks around it. -/
def PlainKey.ofName (name : String) (name_ne : name ≠ "") (isBare : ∀ c ∈ name.toList, isBareChar c = true) :
    PlainKey where
  before := []
  name
  after := []
  blank_before := blank_nil
  name_ne
  isBare
  blank_after := blank_nil

/-- A path of one key. -/
def PlainPath.ofKey (k : PlainKey) : PlainPath where
  keys := [k]
  ne_nil := List.cons_ne_nil k []
  length_le := by
    rw [List.length_singleton]
    decide

/-- A line that ends with its body. -/
def Line.ofBody (body : LineBody) : Line where
  body
  after := []
  comment := none
  carriageReturn := false
  blank_after := blank_nil
  isText_comment := by simp

def PlainKey.text (k : PlainKey) : List Char := k.before ++ k.name.toList ++ k.after

namespace PlainPath

def text (p : PlainPath) : List Char := List.intercalate ['.'] (p.keys.map PlainKey.text)

def names (p : PlainPath) : List String := p.keys.map PlainKey.name

end PlainPath

namespace LineBody

def text : LineBody → List Char
  | empty => []
  | header before _ path => before ++ '[' :: path.text ++ [']']
  | assign path gap _ n => path.text ++ '=' :: gap ++ n.repr.toList

/-- The statement that the line makes, if it makes one. -/
def statement? : LineBody → Option Statement
  | empty => none
  | header _ _ path => some (.table path.names)
  | assign path _ _ n => some (.assign path.names (.integer n))

end LineBody

namespace Line

/-- What stands behind the body of the line. -/
def rest (l : Line) : List Char := l.after ++ l.comment.elim [] ('#' :: ·)

def text (l : Line) : List Char := l.body.text ++ l.rest

def lineBreak (l : Line) : List Char := if l.carriageReturn then ['\r', '\n'] else ['\n']

end Line

/-- Lines with breaks between them. -/
def documentText : List Line → List Char
  | [] => []
  | [l] => l.text
  | l :: m :: lines => l.text ++ l.lineBreak ++ documentText (m :: lines)

def statements (lines : List Line) : List Statement := lines.filterMap fun l => l.body.statement?

/-! ## Ends of lines -/

/-- `Ends tail next`: the line is over at `tail`, and `next` is the line after it. -/
inductive Ends : List Char → List Char → Prop
  | document : Ends [] []
  | lineFeed (next : List Char) : Ends ('\n' :: next) next
  | carriageReturn (next : List Char) : Ends ('\r' :: '\n' :: next) next

theorem documentText_cons (l : Line) (lines : List Line) :
    ∃ tail, documentText (l :: lines) = l.text ++ tail ∧ Ends tail (documentText lines) := by
  cases lines with
  | nil => exact ⟨[], by simp [documentText], .document⟩
  | cons m lines =>
    refine ⟨l.lineBreak ++ documentText (m :: lines), by simp [documentText], ?_⟩
    unfold Line.lineBreak
    cases l.carriageReturn with
    | false => exact .lineFeed _
    | true => exact .carriageReturn _

theorem skipBlanks_append {b : List Char} (hb : Blank b) (cs : List Char) : skipBlanks (b ++ cs) = skipBlanks cs :=
  List.dropWhile_append_of_pos hb

theorem skipBlanks_cons {c : Char} (h : isBlank c = false) (cs : List Char) : skipBlanks (c :: cs) = c :: cs :=
  List.dropWhile_cons_of_neg (by simp [h])

/-- Behind its body a line has only what is passed over. -/
theorem endLine?_rest (l : Line) {tail next : List Char} (h : Ends tail next) :
    endLine? (l.rest ++ tail) = some next := by
  have htail : skipComment (skipBlanks (l.rest ++ tail)) = tail := by
    rw [Line.rest, List.append_assoc, skipBlanks_append l.blank_after]
    cases hc : l.comment with
    | none => cases h <;> rfl
    | some text =>
      have htext := l.isText_comment text hc
      simp only [Option.elim_some, List.cons_append]
      rw [skipBlanks_cons rfl, skipComment, List.dropWhile_append_of_pos htext]
      cases h <;> rfl
  rw [endLine?, htail]
  cases h <;> rfl

/-! ## What is passed over -/

theorem skipFiller_blank {b : List Char} (hb : Blank b) (cs : List Char) :
    skipFiller false (b ++ cs) = skipFiller false cs := by
  induction b with
  | nil => rfl
  | cons c b ih =>
    obtain ⟨hc, hrest⟩ := List.forall_mem_cons.1 hb
    rcases Bool.or_eq_true_iff.1 hc with hc | hc
    · cases eq_of_beq hc
      exact ih hrest
    · cases eq_of_beq hc
      exact ih hrest

theorem skipFiller_ends {tail next : List Char} (h : Ends tail next) (inComment : Bool) :
    skipFiller inComment tail = skipFiller false next := by
  cases h <;> simp [skipFiller]

theorem skipFiller_comment {text : List Char} (htext : ∀ c ∈ text, isText c = true) {tail next : List Char}
    (h : Ends tail next) : skipFiller true (text ++ tail) = skipFiller false next := by
  induction text with
  | nil => exact skipFiller_ends h true
  | cons c text ih =>
    obtain ⟨hc, htext⟩ := List.forall_mem_cons.1 htext
    have hfeed : c ≠ '\n' := by
      rintro rfl
      cases hc
    have hreturn : c ≠ '\r' := by
      rintro rfl
      cases hc
    rw [List.cons_append, skipFiller]
    · simp [hc, ih htext]
    · exact hfeed
    · intro rest hr
      exact absurd hr hreturn

theorem skipFiller_rest (l : Line) {tail next : List Char} (h : Ends tail next) :
    skipFiller false (l.rest ++ tail) = skipFiller false next := by
  rw [Line.rest, List.append_assoc, skipFiller_blank l.blank_after]
  cases hc : l.comment with
  | none => exact skipFiller_ends h false
  | some text => exact skipFiller_comment (l.isText_comment text hc) h

/-! ## Keys -/

/-- Characters of different classes differ. -/
theorem ne_of_class {p : Char → Bool} {c d : Char} (hc : p c = true) (hd : p d = false) : c ≠ d := by
  rintro rfl
  rw [hc] at hd
  cases hd

theorem isBlank_of_isBareChar {c : Char} (hc : isBareChar c = true) : isBlank c = false := by
  simp [isBlank, ne_of_class hc (d := ' ') rfl, ne_of_class hc (d := '\t') rfl]

/-- The beginning of a statement is not passed over. -/
theorem skipFiller_start {c : Char} (hc : c = '[' ∨ isBareChar c = true) (cs : List Char) :
    skipFiller false (c :: cs) = c :: cs := by
  rcases hc with rfl | hc
  · simp [skipFiller, isBlank]
  · have hreturn := ne_of_class hc (d := '\r') rfl
    have hhash := ne_of_class hc (d := '#') rfl
    rw [skipFiller]
    · simp [isBlank_of_isBareChar hc, hhash]
    · exact ne_of_class hc rfl
    · intro rest hr
      exact absurd hr hreturn

theorem readKey_bare {name : String} (hne : name ≠ "") (hbare : ∀ c ∈ name.toList, isBareChar c = true)
    {cs : List Char} (hcs : ∀ c ∈ cs.head?, isBareChar c = false) :
    readKey (name.toList ++ cs) = some (name, cs) := by
  have htake : (name.toList ++ cs).takeWhile isBareChar = name.toList := by
    rw [List.takeWhile_append_of_pos hbare]
    cases cs with
    | nil => simp
    | cons c cs => simp [hcs c rfl]
  have hdrop : (name.toList ++ cs).dropWhile isBareChar = cs := by
    rw [List.dropWhile_append_of_pos hbare]
    cases cs with
    | nil => rfl
    | cons c cs => simp [hcs c rfl]
  cases hname : name.toList with
  | nil => exact absurd (String.toList_eq_nil_iff.1 hname) hne
  | cons d ds =>
    rw [hname] at htake hdrop hbare
    have hd := hbare d List.mem_cons_self
    rw [List.cons_append] at htake hdrop ⊢
    rw [readKey]
    · simp [htake, hdrop, ← hname, hne]
    · exact fun rest h => ne_of_class hd rfl (List.cons.inj h).1
    · exact fun rest h => ne_of_class hd rfl (List.cons.inj h).1

theorem isBareChar_of_isBlank {c : Char} (hc : isBlank c = true) : isBareChar c = false := by
  cases hbare : isBareChar c with
  | false => rfl
  | true =>
    rw [isBlank_of_isBareChar hbare] at hc
    cases hc

theorem PlainKey.exists_start (k : PlainKey) : ∃ c cs, k.name.toList = c :: cs ∧ isBareChar c = true := by
  cases hname : k.name.toList with
  | nil => exact absurd (String.toList_eq_nil_iff.1 hname) k.name_ne
  | cons c cs => exact ⟨c, cs, rfl, k.isBare c (by simp [hname])⟩

/-- Characters that end a path. -/
def EndsPath (c : Char) : Prop := c = ']' ∨ c = '='

/-- A key is read with the blanks around it. -/
theorem readKey_text (k : PlainKey) {c : Char} {cs : List Char} (hbare : isBareChar c = false)
    (hblank : isBlank c = false) :
    ∃ rest, readKey (skipBlanks (k.text ++ c :: cs)) = some (k.name, rest) ∧ skipBlanks rest = c :: cs := by
  have hafter : ∀ d ∈ (k.after ++ c :: cs).head?, isBareChar d = false := by
    intro d hd
    cases hblanks : k.after with
    | nil =>
      rw [hblanks] at hd
      cases hd
      exact hbare
    | cons a as =>
      rw [hblanks] at hd
      obtain rfl : a = d := by simpa using hd
      exact isBareChar_of_isBlank (k.blank_after a (by simp [hblanks]))
  have hstart : skipBlanks (k.text ++ c :: cs) = k.name.toList ++ (k.after ++ c :: cs) := by
    obtain ⟨d, ds, hname, hd⟩ := k.exists_start
    rw [PlainKey.text, List.append_assoc, List.append_assoc, skipBlanks_append k.blank_before, hname]
    exact skipBlanks_cons (isBlank_of_isBareChar hd) _
  refine ⟨k.after ++ c :: cs, ?_, ?_⟩
  · rw [hstart, readKey_bare k.name_ne k.isBare hafter]
  · rw [skipBlanks_append k.blank_after, skipBlanks_cons hblank]

theorem readKeys_text {keys : List PlainKey} (hne : keys ≠ []) {limit : Nat} (hlimit : keys.length ≤ limit)
    {c : Char} (hc : EndsPath c) (cs : List Char) :
    readKeys limit (List.intercalate ['.'] (keys.map PlainKey.text) ++ c :: cs) =
      some (keys.map PlainKey.name, c :: cs) := by
  induction keys generalizing limit with
  | nil => exact absurd rfl hne
  | cons k keys ih =>
    cases limit with
    | zero => simp at hlimit
    | succ limit =>
      cases keys with
      | nil =>
        -- The last key has the end of the path behind it.
        obtain ⟨rest, hkey, hrest⟩ : ∃ rest, readKey (skipBlanks (k.text ++ c :: cs)) = some (k.name, rest) ∧
            skipBlanks rest = c :: cs := by
          rcases hc with rfl | rfl <;> exact readKey_text k rfl rfl
        rw [List.map_singleton, List.intercalate_singleton, readKeys, hkey]
        rcases hc with rfl | rfl <;> simp [hrest]
      | cons m keys =>
        have hpoint : List.intercalate ['.'] ((k :: m :: keys).map PlainKey.text) ++ c :: cs =
            k.text ++ '.' :: (List.intercalate ['.'] ((m :: keys).map PlainKey.text) ++ c :: cs) := by
          simp
        obtain ⟨rest, hkey, hrest⟩ := @readKey_text k '.'
          (List.intercalate ['.'] ((m :: keys).map PlainKey.text) ++ c :: cs) rfl rfl
        rw [hpoint, readKeys, hkey]
        simp only [hrest, ih (by simp) (Nat.le_of_succ_le_succ hlimit)]
        rfl

theorem readPath_text (p : PlainPath) {c : Char} (hc : EndsPath c) (cs : List Char) :
    readPath (p.text ++ c :: cs) = some (p.names, c :: cs) :=
  readKeys_text p.ne_nil p.length_le hc cs

/-! ## Numbers -/

/-- No value goes on at the end of its line. -/
theorem skipBlanks_rest (l : Line) {tail next : List Char} (h : Ends tail next) :
    ∀ c ∈ (skipBlanks (l.rest ++ tail)).head?, c = '#' ∨ c = '\n' ∨ c = '\r' := by
  rw [Line.rest, List.append_assoc, skipBlanks_append l.blank_after]
  cases l.comment with
  | none => cases h <;> simp [skipBlanks, isBlank]
  | some text => simp [skipBlanks, isBlank]

theorem scalarText_of_over {cs : List Char}
    (h : ∀ c ∈ (skipBlanks cs).head?, c = '#' ∨ c = '\n' ∨ c = '\r') : scalarText cs = ([], cs) := by
  cases cs with
  | nil => rfl
  | cons c cs =>
    cases hc : isBlank c with
    | true =>
      have hskip : skipBlanks (c :: cs) = skipBlanks cs := List.dropWhile_cons_of_pos hc
      have hover : continues cs = false := by
        rw [hskip] at h
        unfold continues
        cases hcs : skipBlanks cs with
        | nil => rfl
        | cons d ds =>
          rw [hcs] at h
          rcases h d rfl with rfl | rfl | rfl <;> rfl
      simp [scalarText, isScalarChar, hc, hover]
    | false =>
      rw [skipBlanks_cons hc] at h
      rcases h c rfl with rfl | rfl | rfl <;> simp [scalarText, isScalarChar, isBlank]

theorem scalarText_digits {ds : List Char} (hds : ∀ c ∈ ds, c.isDigit = true) {cs : List Char}
    (h : ∀ c ∈ (skipBlanks cs).head?, c = '#' ∨ c = '\n' ∨ c = '\r') : scalarText (ds ++ cs) = (ds, cs) := by
  induction ds with
  | nil => exact scalarText_of_over h
  | cons d ds ih =>
    obtain ⟨hd, hrest⟩ := List.forall_mem_cons.1 hds
    have hscalar : isScalarChar d = true := by
      have hne (x : Char) (hx : x.isDigit = false) : d ≠ x := ne_of_class hd hx
      simp [isScalarChar, isBlank, hne]
    simp [scalarText, hscalar, ih hrest]

theorem digitsValue_eq {ds : List Char} (hds : ∀ c ∈ ds, c.isDigit = true) :
    digitsValue 10 ds = Nat.ofDigitChars 10 ds 0 := by
  unfold digitsValue Nat.ofDigitChars
  refine List.foldl_ext _ _ _ ?_
  intro n c hc
  rw [hexDigit?, if_pos (hds c hc)]
  rfl

theorem separates_of_digits {ds : List Char} (hds : ∀ c ∈ ds, c.isDigit = true) (p : Char → Bool) (joined : Bool) :
    separates p joined ds = true := by
  induction ds generalizing joined with
  | nil => rfl
  | cons d ds ih =>
    obtain ⟨hd, hrest⟩ := List.forall_mem_cons.1 hds
    have hbar : d ≠ '_' := ne_of_class hd rfl
    cases ds with
    | nil => simp [separates, hbar]
    | cons e ds => simp [separates, hbar, ih hrest]

/-- Digits without a zero in front are a whole number. -/
theorem ofText?_digits {ds : List Char} (hne : ds ≠ []) (hds : ∀ c ∈ ds, c.isDigit = true)
    (hzero : ds.head? = some '0' → ds = ['0']) :
    Scalar.ofText? ds = some (.integer (Nat.ofDigitChars 10 ds 0)) := by
  cases ds with
  | nil => exact absurd rfl hne
  | cons d ds =>
    have hd := hds d List.mem_cons_self
    have hother (x : Char) (hx : x.isDigit = false) : d ≠ x := ne_of_class hd hx
    have hsign : splitSign (d :: ds) = (none, d :: ds) := by
      rw [splitSign]
      · exact fun rest h => hother '-' rfl (List.cons.inj h).1
      · exact fun rest h => hother '+' rfl (List.cons.inj h).1
    have hword : Scalar.isWord (d :: ds) = false := by simp [Scalar.isWord, hsign, hother]
    have hdrop : (d :: ds).dropWhile Char.isDigit = [] := List.dropWhile_eq_nil_iff.2 hds
    have hfilter : (d :: ds).filter (· != '_') = d :: ds := by
      rw [List.filter_eq_self]
      intro c hc
      simpa using ne_of_class (hds c hc) (d := '_') rfl
    have hwhole : isWhole (d :: ds) = true := by
      by_cases hd0 : d = '0'
      · subst hd0
        simpa [isWhole] using hzero rfl
      · simp [isWhole, hd0]
    have hdecimal : Scalar.ofNumber? (d :: ds) = some (.integer (Nat.ofDigitChars 10 (d :: ds) 0)) := by
      have hall : (d :: ds).all Char.isDigit = true := List.all_eq_true.2 hds
      simp only [Scalar.ofNumber?, hsign, hdrop, Scalar.ofDecimal?, hwhole, separates_of_digits hds, hfilter, hall,
        digitsValue_eq hds, applySign]
      simp
    rw [Scalar.ofText?, hword]
    · simpa using hdecimal
    · intro c rest h
      rw [h] at hzero
      simp at hzero

theorem ofText?_repr (n : Nat) : Scalar.ofText? n.repr.toList = some (.integer n) := by
  rw [ofText?_digits (repr_ne_nil n) fun c => isDigit_of_mem_repr, Nat.toList_repr, Nat.ofDigitChars_ten_toDigits]
  intro hhead
  cases n with
  | zero => rfl
  | succ n => exact absurd hhead (head?_repr n.succ_pos)

theorem exists_repr (n : Nat) : ∃ d ds, n.repr.toList = d :: ds ∧ d.isDigit = true := by
  cases hn : n.repr.toList with
  | nil => exact absurd hn (repr_ne_nil n)
  | cons d ds => exact ⟨d, ds, rfl, isDigit_of_mem_repr (n := n) (by simp [hn])⟩

theorem readValue_repr (fuel depth n : Nat) (l : Line) {tail next : List Char} (h : Ends tail next) :
    readValue (fuel + 1) depth (n.repr.toList ++ (l.rest ++ tail)) = some (.integer n, l.rest ++ tail) := by
  have htext := scalarText_digits (fun c => isDigit_of_mem_repr (n := n)) (skipBlanks_rest l h)
  have hscalar := ofText?_repr n
  obtain ⟨d, ds, hn, hd⟩ := exists_repr n
  rw [hn] at htext hscalar ⊢
  have hother (x : Char) (hx : x.isDigit = false) (rest : List Char) :
      d :: (ds ++ (l.rest ++ tail)) ≠ x :: rest := by
    intro h
    exact ne_of_class hd hx (List.cons.inj h).1
  rw [List.cons_append, readValue]
  · simp only [← List.cons_append, htext, hscalar]
  · exact fun rest => hother '"' rfl _
  · exact fun rest => hother '\'' rfl _
  · exact hother '"' rfl
  · exact hother '\'' rfl
  · exact fun rest _ h _ => hother '[' rfl rest h
  · exact fun rest _ h _ => hother '{' rfl rest h

/-! ## Statements -/

theorem readPath_blank {b : List Char} (hb : Blank b) (cs : List Char) : readPath (b ++ cs) = readPath cs := by
  rw [readPath, readPath, maxNesting, readKeys, readKeys, skipBlanks_append hb]

/-- A path begins with a key. -/
theorem readPath_ne_none {c : Char} {cs : List Char} (hblank : isBlank c = false) (hbare : isBareChar c = false)
    (hquote : c ≠ '"' ∧ c ≠ '\'') : readPath (c :: cs) = none := by
  have hkey : readKey (c :: cs) = none := by
    rw [readKey]
    · simp [hbare]
    · exact fun rest h => hquote.1 (List.cons.inj h).1
    · exact fun rest h => hquote.2 (List.cons.inj h).1
  rw [readPath, maxNesting, readKeys, skipBlanks_cons hblank, hkey]

theorem PlainPath.exists_start (p : PlainPath) :
    ∃ before c cs, Blank before ∧ isBareChar c = true ∧ p.text = before ++ c :: cs := by
  obtain ⟨keys, hne, -⟩ := p
  cases keys with
  | nil => exact absurd rfl hne
  | cons k keys =>
    obtain ⟨c, cs, hname, hc⟩ := k.exists_start
    cases keys with
    | nil => exact ⟨k.before, c, cs ++ k.after, k.blank_before, hc, by simp [text, PlainKey.text, hname]⟩
    | cons m keys =>
      refine ⟨k.before, c, cs ++ (k.after ++ '.' :: List.intercalate ['.'] ((m :: keys).map PlainKey.text)),
        k.blank_before, hc, ?_⟩
      simp [text, PlainKey.text, hname]

theorem readStatement_header (fuel : Nat) (path : PlainPath) {cs next : List Char} (hend : endLine? cs = some next) :
    readStatement fuel ('[' :: (path.text ++ ']' :: cs)) = some (.table path.names, next) := by
  have hpath := readPath_text path (c := ']') (.inl rfl) cs
  rw [readStatement, hpath]
  · simp [hend]
  · -- A second bracket would begin no key.
    intro rest hrest
    rw [hrest, readPath_ne_none rfl rfl (by decide)] at hpath
    cases hpath

/-- The blanks in front of an assignment do not belong to it. -/
theorem readStatement_assign (fuel : Nat) (path : PlainPath) {gap : List Char} (hgap : Blank gap) (n : Nat) (l : Line)
    {tail next : List Char} (h : Ends tail next) {before : List Char} {c : Char} {cs : List Char}
    (hbefore : Blank before) (hc : isBareChar c = true) (hpath : path.text = before ++ c :: cs) :
    readStatement (fuel + 1) (c :: (cs ++ '=' :: (gap ++ (n.repr.toList ++ (l.rest ++ tail))))) =
      some (.assign path.names (.integer n), next) := by
  have hread := readPath_text path (c := '=') (.inr rfl) (gap ++ (n.repr.toList ++ (l.rest ++ tail)))
  rw [hpath, List.append_assoc, readPath_blank hbefore, List.cons_append] at hread
  have hvalue : skipBlanks (gap ++ (n.repr.toList ++ (l.rest ++ tail))) = n.repr.toList ++ (l.rest ++ tail) := by
    obtain ⟨d, ds, hn, hd⟩ := exists_repr n
    rw [skipBlanks_append hgap, hn]
    exact skipBlanks_cons (by simp [isBlank, ne_of_class hd]) _
  have htarget : readTarget skipBlanks (c :: (cs ++ '=' :: (gap ++ (n.repr.toList ++ (l.rest ++ tail))))) =
      some (path.names, n.repr.toList ++ (l.rest ++ tail)) := by
    rw [readTarget, hread]
    simp only [skipBlanks_cons (c := '=') rfl, hvalue]
  have hbracket : c ≠ '[' := ne_of_class hc rfl
  rw [readStatement, htarget]
  · simp only [readValue_repr fuel maxNesting n l h, endLine?_rest l h]
    rfl
  · exact fun rest h => hbracket (List.cons.inj h).1
  · exact fun rest h => hbracket (List.cons.inj h).1

/-- Behind what is passed over, a line is read as its statement, and the next line is left. -/
theorem readStatement_line (fuel : Nat) {l : Line} {s : Statement} (hs : l.body.statement? = some s)
    {tail next : List Char} (h : Ends tail next) :
    ∃ c cs, skipFiller false (l.text ++ tail) = c :: cs ∧ readStatement (fuel + 1) (c :: cs) = some (s, next) := by
  rw [Line.text]
  cases hbody : l.body with
  | empty =>
    rw [hbody] at hs
    cases hs
  | header before hbefore path =>
    rw [hbody] at hs
    cases hs
    refine ⟨'[', path.text ++ ']' :: (l.rest ++ tail), ?_, readStatement_header _ path (endLine?_rest l h)⟩
    simp only [LineBody.text, List.append_assoc, List.cons_append, List.nil_append]
    rw [skipFiller_blank hbefore, skipFiller_start (.inl rfl)]
  | assign path gap hgap n =>
    rw [hbody] at hs
    cases hs
    obtain ⟨before, c, cs, hbefore, hc, hpath⟩ := path.exists_start
    refine ⟨c, _, ?_, readStatement_assign fuel path hgap n l h hbefore hc hpath⟩
    simp only [LineBody.text, hpath, List.append_assoc, List.cons_append]
    rw [skipFiller_blank hbefore, skipFiller_start (.inr hc)]

theorem readStatements_of_skipFiller {cs ds : List Char} (h : skipFiller false cs = skipFiller false ds)
    (fuel n : Nat) : readStatements fuel n cs = readStatements fuel n ds := by
  cases n with
  | zero => rfl
  | succ n => rw [readStatements, readStatements, h]

theorem readStatements_documentText (fuel : Nat) {n : Nat} {lines : List Line} (hn : (statements lines).length < n) :
    readStatements (fuel + 1) n (documentText lines) = some (statements lines) := by
  induction lines generalizing n with
  | nil =>
    cases n with
    | zero => cases hn
    | succ n => rfl
  | cons l lines ih =>
    obtain ⟨tail, htext, hends⟩ := documentText_cons l lines
    rw [htext]
    cases hs : l.body.statement? with
    | none =>
      have hstatements : statements (l :: lines) = statements lines := List.filterMap_cons_none hs
      have hempty : l.text = l.rest := by
        rw [Line.text]
        cases hbody : l.body with
        | empty => rfl
        | _ =>
          rw [hbody] at hs
          cases hs
      rw [hstatements] at hn ⊢
      rw [hempty, readStatements_of_skipFiller (skipFiller_rest l hends), ih hn]
    | some s =>
      have hstatements : statements (l :: lines) = s :: statements lines := List.filterMap_cons_some hs
      rw [hstatements] at hn ⊢
      cases n with
      | zero => cases hn
      | succ n =>
        obtain ⟨c, cs, hskip, hread⟩ := readStatement_line fuel hs hends
        rw [readStatements, hskip]
        simp only [hread, ih (Nat.lt_of_succ_lt_succ hn)]
        rfl

/-! ## Documents -/

theorem length_le_of_ends {tail next : List Char} (h : Ends tail next) : next.length ≤ tail.length := by
  cases h with
  | document => simp
  | lineFeed => simp
  | carriageReturn =>
    simp only [List.length_cons]
    omega

/-- Every statement takes a character. -/
theorem length_statements_le (lines : List Line) : (statements lines).length ≤ (documentText lines).length := by
  induction lines with
  | nil => simp [statements]
  | cons l lines ih =>
    obtain ⟨tail, htext, hends⟩ := documentText_cons l lines
    have htail := length_le_of_ends hends
    rw [htext, List.length_append]
    cases hs : l.body.statement? with
    | none =>
      have hstatements : statements (l :: lines) = statements lines := List.filterMap_cons_none hs
      rw [hstatements]
      omega
    | some s =>
      have hstatements : statements (l :: lines) = s :: statements lines := List.filterMap_cons_some hs
      have hbody : 0 < l.text.length := by
        rw [Line.text]
        cases hbody : l.body with
        | empty =>
          rw [hbody] at hs
          cases hs
        | _ =>
          simp only [LineBody.text, List.length_append, List.length_cons]
          omega
      rw [hstatements, List.length_cons]
      omega

/-- A plain document is read as its statements. -/
theorem readDocument_documentText (lines : List Line) :
    readDocument (documentText lines) = some (statements lines) := by
  have hread (fuel : Nat) : readStatements (fuel + 1) ((documentText lines).length + 1) (documentText lines) =
      some (statements lines) :=
    readStatements_documentText fuel (Nat.lt_succ_of_le (length_statements_le lines))
  rw [readDocument]
  · exact hread _
  · -- A byte order mark would begin no statement.
    intro rest hmark
    have hbegin := hread 0
    have hskip : skipFiller false ('\uFEFF' :: rest) = '\uFEFF' :: rest := by simp [skipFiller, isBlank]
    have hpath : readPath ('\uFEFF' :: rest) = none := readPath_ne_none rfl rfl (by decide)
    have htarget : readTarget skipBlanks ('\uFEFF' :: rest) = none := by rw [readTarget, hpath]
    rw [hmark, readStatements, hskip] at hbegin
    simp [readStatement, htarget] at hbegin

end TableQuery.Toml
