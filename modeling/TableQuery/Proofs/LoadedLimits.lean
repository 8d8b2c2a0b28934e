import TableQuery.Limits.File
import TableQuery.Proofs.Outcomes
import TableQuery.Proofs.PlainDocuments
import TableQuery.Proofs.Records
/-!
# Loaded limits

Limits that are loaded have the values of their document and the defaults for the settings it leaves out, in
whatever order they stand there. A name that is not a setting's is refused before any value is checked.
-/

namespace TableQuery

namespace Limits

open Toml (Statement Names Tabulates)

/-! ## Settings -/

theorem fieldAt?_name (s : LimitSetting) : Toml.fieldAt? LimitSetting.all LimitSetting.name [s.name] = some s := by
  cases s <;> decide

/-- Integers of a document are below it. -/
def integerBound : Nat := 9223372036854775808

theorem natural?_integer {n : Nat} (h : n < integerBound) : Toml.Value.natural? (.integer n) = some n := by
  unfold integerBound at h
  rw [Toml.Value.natural?, if_pos (by omega)]
  rfl

theorem ext_get? {l m : Limits} (h : ∀ k, l.get? k = m.get? k) : l = m := by
  obtain ⟨depth, keys, top⟩ := l
  obtain ⟨depth', keys', top'⟩ := m
  obtain rfl : depth = depth' := Option.some.inj (h .filterDepth)
  obtain rfl : keys = keys' := Option.some.inj (h .orderKeys)
  obtain rfl : top = top' := h .top
  rfl

theorem get?_set (l : Limits) (s k : LimitSetting) (n : Nat) :
    (l.set s n).get? k = if k = s then some n else l.get? k := by
  cases s <;> cases k <;> rfl

/-- The limits that have these settings, and the defaults for all others. -/
def ofSettings (settings : List (LimitSetting × Nat)) : Limits where
  filterDepth := (settings.lookup .filterDepth).getD 128
  orderKeys := (settings.lookup .orderKeys).getD 32
  top := settings.lookup .top

/-- The setting that is named when several are zero. -/
def firstZero? (settings : List (LimitSetting × Nat)) : Option LimitSetting :=
  if (.filterDepth, 0) ∈ settings then some .filterDepth
  else if (.orderKeys, 0) ∈ settings then some .orderKeys
  else if (.top, 0) ∈ settings then some .top
  else none

theorem get?_ofSettings (settings : List (LimitSetting × Nat)) (k : LimitSetting) :
    (ofSettings settings).get? k = (settings.lookup k).or (({} : Limits).get? k) := by
  cases k with
  | filterDepth => cases h : settings.lookup .filterDepth <;> simp [ofSettings, get?, h]
  | orderKeys => cases h : settings.lookup .orderKeys <;> simp [ofSettings, get?, h]
  | top => cases h : settings.lookup .top <;> simp [ofSettings, get?, h]

variable {settings : List (LimitSetting × Nat)}

theorem lookup_eq_none_of_notMem {k : LimitSetting} (h : k ∉ settings.map Prod.fst) : settings.lookup k = none := by
  rw [List.lookup_eq_none_iff]
  intro a ha
  rw [bne_iff_ne]
  rintro rfl
  exact h (List.mem_map_of_mem ha)

/-- Setting one after the other keeps every value where no setting comes twice. -/
theorem get?_foldl_set (hnodup : (settings.map Prod.fst).Nodup) (l : Limits) (k : LimitSetting) :
    (settings.foldl (fun l a => l.set a.1 a.2) l).get? k = (settings.lookup k).or (l.get? k) := by
  induction settings generalizing l with
  | nil => rfl
  | cons a settings ih =>
    obtain ⟨s, n⟩ := a
    obtain ⟨hs, hrest⟩ := List.nodup_cons.1 hnodup
    rw [List.foldl_cons, ih hrest, get?_set, List.lookup_cons]
    by_cases hk : k = s
    · subst hk
      simp [lookup_eq_none_of_notMem hs]
    · simp [hk, beq_eq_false_iff_ne.2 hk]

theorem mem_iff_lookup (hnodup : (settings.map Prod.fst).Nodup) (k : LimitSetting) (n : Nat) :
    (k, n) ∈ settings ↔ settings.lookup k = some n := by
  induction settings with
  | nil => simp
  | cons a settings ih =>
    obtain ⟨s, m⟩ := a
    obtain ⟨hs, hrest⟩ := List.nodup_cons.1 hnodup
    rw [List.mem_cons, ih hrest, List.lookup_cons]
    by_cases hk : k = s
    · subst hk
      simp [lookup_eq_none_of_notMem hs, eq_comm]
    · simp [hk, beq_eq_false_iff_ne.2 hk]

/-- The first zero among the limits is the first among the values given, as no default is zero. -/
theorem zero?_ofSettings (hnodup : (settings.map Prod.fst).Nodup) :
    (ofSettings settings).zero? = firstZero? settings := by
  have hzero (k : LimitSetting) : (ofSettings settings).get? k = some 0 ↔ (k, 0) ∈ settings := by
    rw [get?_ofSettings, mem_iff_lookup hnodup]
    cases settings.lookup k with
    | none => cases k <;> simp [get?]
    | some n => simp
  simp only [zero?, LimitSetting.all, firstZero?, ← hzero]
  grind

/-! ## Tables of settings -/

/-- The entries of a table with these settings. -/
def entries (settings : List (LimitSetting × Nat)) : List (String × Toml.Value) :=
  settings.map fun a => (a.1.name, .integer a.2)

theorem fieldsAt?_settings {done : List LimitSetting} (hnodup : (settings.map Prod.fst).Nodup)
    (hdone : ∀ a ∈ settings, a.1 ∉ done) (hbound : ∀ a ∈ settings, a.2 < integerBound) :
    Toml.fieldsAt? LimitSetting.all LimitSetting.name done (settings.map fun a => ([a.1.name], .integer a.2)) =
      some settings := by
  induction settings generalizing done with
  | nil => rfl
  | cons a settings ih =>
    obtain ⟨hs, hrest⟩ := List.nodup_cons.1 hnodup
    obtain ⟨ha, hdone⟩ := List.forall_mem_cons.1 hdone
    obtain ⟨hn, hbound⟩ := List.forall_mem_cons.1 hbound
    have hdone' : ∀ b ∈ settings, b.1 ∉ a.1 :: done := by
      intro b hb hmem
      rcases List.mem_cons.1 hmem with heq | hmem
      · exact hs (heq ▸ List.mem_map_of_mem hb)
      · exact hdone b hb hmem
    rw [List.map_cons, Toml.fieldsAt?, fieldAt?_name, natural?_integer hn]
    simp only [if_neg ha, ih hrest hdone' hbound, Option.map_some]

theorem ofStatements?_settings (hnodup : (settings.map Prod.fst).Nodup) (hbound : ∀ a ∈ settings, a.2 < integerBound)
    {statements : List Statement} (h : Tabulates tableName (entries settings) statements) :
    ofStatements? statements = some (ofSettings settings) := by
  have hset : settings.foldl (fun l a => l.set a.1 a.2) {} = ofSettings settings := by
    apply ext_get?
    intro k
    rw [get?_foldl_set hnodup, get?_ofSettings]
  rw [ofStatements?, Toml.recordIn?_of_tabulates h, entries, List.map_map, ← hset]
  exact congrArg _ (fieldsAt?_settings hnodup (by simp) hbound)

/-! ## Names -/

/-- The table and its settings. -/
def IsKnown (path : List String) : Prop := path = [tableName] ∨ ∃ s : LimitSetting, path = [tableName, s.name]

theorem isKnown_of_fieldsAt? {entries : List (List String × Toml.Value)} {values : List (LimitSetting × Nat)}
    (h : Toml.fieldsAt? LimitSetting.all LimitSetting.name [] entries = some values) {path inner : List String}
    {v : Toml.Value} (hmem : (path, v) ∈ entries) (hv : v.HasPath inner) : IsKnown (tableName :: (path ++ inner)) := by
  obtain ⟨s, n, rfl, rfl⟩ := Toml.eq_of_mem_fieldsAt? h hmem
  obtain rfl := hv.eq_nil_of_integer
  exact .inr ⟨s, rfl⟩

theorem isKnown_of_record? {v : Toml.Value} {values : List (LimitSetting × Nat)}
    (h : Toml.record? LimitSetting.all LimitSetting.name v = some values) {inner : List String}
    (hv : v.HasPath inner) : IsKnown (tableName :: inner) := by
  cases hv with
  | here => exact .inl rfl
  | inside hmem hrest => exact isKnown_of_fieldsAt? h hmem hrest

/-- Limits come only from statements without a name that is not known. -/
theorem isKnown_of_names {statements : List Statement} {l : Limits} (h : ofStatements? statements = some l)
    {p : List String} (hp : Names [] statements p) : IsKnown p := by
  obtain ⟨values, h, -⟩ := Option.map_eq_some_iff.1 h
  unfold Toml.recordIn? at h
  split at h
  · next key body =>
    split at h
    · next hkey =>
      subst hkey
      obtain ⟨entries, hassign, hset⟩ := Option.bind_eq_some_iff.1 h
      cases hp with
      | table => exact .inl rfl
      | afterTable _ hp =>
        rw [Toml.assignments?_eq_some hassign] at hp
        obtain ⟨path, v, inner, hmem, hv, rfl⟩ := Toml.names_assignments hp
        exact isKnown_of_fieldsAt? hset hmem hv
    · cases h
  · next key v =>
    split at h
    · next hkey =>
      subst hkey
      cases hp with
      | assign _ _ _ hv => exact isKnown_of_record? h hv
      | afterAssign _ _ hp => cases hp
    · cases h
  · obtain ⟨inTable, hin, hset⟩ := Option.bind_eq_some_iff.1 h
    obtain ⟨entries, hassign, htable⟩ := Option.bind_eq_some_iff.1 hin
    rw [Toml.assignments?_eq_some hassign] at hp
    obtain ⟨path, v, inner, hmem, hv, rfl⟩ := Toml.names_assignments hp
    obtain ⟨rest, rfl, hin⟩ := Toml.eq_of_mem_inTable? htable hmem
    exact isKnown_of_fieldsAt? hset hin hv

/-! ## Loading -/

/-- The text is a document of one table that gives these settings their values, in this order and each once. -/
def Assigns (s : String) (settings : List (LimitSetting × Nat)) : Prop :=
  ∃ statements, Toml.readDocument s.toList = some statements ∧ Tabulates tableName (entries settings) statements ∧
    (settings.map Prod.fst).Nodup ∧ ∀ a ∈ settings, a.2 < integerBound

theorem isBare_name (s : LimitSetting) : ∀ c ∈ s.name.toList, Toml.isBareChar c = true :=
  List.all_eq_true.1 (by cases s <;> decide)

theorem name_ne (s : LimitSetting) : s.name ≠ "" := by cases s <;> decide

theorem tableName_ne : tableName ≠ "" := by decide

theorem isBare_tableName : ∀ c ∈ tableName.toList, Toml.isBareChar c = true := List.all_eq_true.1 (by decide)

/-- A document of the settings, one a line under the header of their table. -/
def document (settings : List (LimitSetting × Nat)) : List Toml.Line :=
  .ofBody (.header [] Toml.blank_nil (.ofKey (.ofName tableName tableName_ne isBare_tableName))) ::
    settings.map fun a =>
      .ofBody (.assign (.ofKey (.ofName a.1.name (name_ne a.1) (isBare_name a.1))) [] Toml.blank_nil a.2)

theorem statements_document (settings : List (LimitSetting × Nat)) :
    Toml.statements (document settings) = .table [tableName] :: (entries settings).map fun e => .assign [e.1] e.2 := by
  have hrest (settings : List (LimitSetting × Nat)) :
      Toml.statements (document settings).tail = (entries settings).map fun e => .assign [e.1] e.2 := by
    induction settings with
    | nil => rfl
    | cons a settings ih => exact congrArg (_ :: ·) ih
  exact congrArg (_ :: ·) (hrest settings)

/-- Settings in any order have a document. -/
theorem assigns_document (hnodup : (settings.map Prod.fst).Nodup) (hbound : ∀ a ∈ settings, a.2 < integerBound) :
    Assigns (String.ofList (Toml.documentText (document settings))) settings := by
  refine ⟨_, ?_, .header, hnodup, hbound⟩
  rw [String.toList_ofList, Toml.readDocument_documentText, statements_document]

/-- The text is a document in which something has this path. -/
def HasName (s : String) (path : List String) : Prop :=
  ∃ statements, Toml.readDocument s.toList = some statements ∧ Names [] statements path

theorem zero?_eq_none_iff {l : Limits} :
    l.zero? = none ↔ 1 ≤ l.filterDepth ∧ 1 ≤ l.orderKeys ∧ ∀ n, l.top = some n → 1 ≤ n := by
  simp only [zero?, LimitSetting.all, List.find?_eq_none, List.forall_mem_cons, get?, beq_iff_eq]
  grind

theorem validate_eq_outcome (l : Limits) : l.validate = outcome (l.zero?.map .zero) l := by
  rw [validate]
  cases l.zero? <;> rfl

theorem Assigns.nodup {s : String} (h : Assigns s settings) : (settings.map Prod.fst).Nodup := by
  obtain ⟨-, -, -, hnodup, -⟩ := h
  exact hnodup

theorem ofText_of_assigns {s : String} (h : Assigns s settings) :
    ofText s = outcome ((firstZero? settings).map .zero) (ofSettings settings) := by
  obtain ⟨statements, hread, htable, hnodup, hbound⟩ := h
  have hload : (Toml.readDocument s.toList >>= ofStatements?) = some (ofSettings settings) := by
    rw [hread]
    exact ofStatements?_settings hnodup hbound htable
  rw [ofText, hload, ← zero?_ofSettings hnodup]
  exact validate_eq_outcome _

/-- A name that is not known is refused before a zero is. -/
theorem ofText_of_hasName {s : String} {path : List String} (h : HasName s path) (hpath : ¬IsKnown path) :
    ofText s = .error .malformed := by
  obtain ⟨statements, hread, hnames⟩ := h
  have hload : (Toml.readDocument s.toList >>= ofStatements?) = none := by
    rw [hread]
    cases hl : ofStatements? statements with
    | none => exact hl
    | some l => exact absurd (isKnown_of_names hl hnames) hpath
  rw [ofText, hload]

theorem zero?_of_ofText {s : String} {l : Limits} (h : ofText s = .ok l) : l.zero? = none := by
  rw [ofText] at h
  split at h
  · rw [validate_eq_outcome, outcome_eq_ok] at h
    obtain ⟨hzero, rfl⟩ := h
    exact Option.map_eq_none_iff.1 hzero
  · cases h

/-- Neither the values nor the zero that is named depend on the order of the settings. -/
theorem outcome_perm {settings' : List (LimitSetting × Nat)} (hperm : settings.Perm settings')
    (hnodup : (settings.map Prod.fst).Nodup) :
    firstZero? settings = firstZero? settings' ∧ ofSettings settings = ofSettings settings' := by
  have hnodup' : (settings'.map Prod.fst).Nodup := (hperm.map Prod.fst).nodup_iff.1 hnodup
  refine ⟨by simp only [firstZero?, hperm.mem_iff], ext_get? fun k => ?_⟩
  have hlookup : settings.lookup k = settings'.lookup k := by
    ext n
    rw [← mem_iff_lookup hnodup, ← mem_iff_lookup hnodup', hperm.mem_iff]
  rw [get?_ofSettings, get?_ofSettings, hlookup]

theorem message_zero (k : LimitSetting) : ∃ t, (LimitsError.zero k).message = "invalid config: " ++ k.name ++ t := by
  cases k with
  | filterDepth => exact ⟨" must be at least 1", rfl⟩
  | orderKeys => exact ⟨" must be at least 1", rfl⟩
  | top => exact ⟨" must be at least 1 when set", rfl⟩

/-- Plain documents are read, and settings in any order have one. A document that gives settings their values, in
any order, is loaded with these and the defaults, or refused for the first zero among them, which the message
names. A document with another name is refused as malformed, and whatever is loaded could be kept. -/
theorem limits_of_documents :
    (∀ lines, Toml.readDocument (Toml.documentText lines) = some (Toml.statements lines)) ∧
    (∀ settings, (settings.map Prod.fst).Nodup → (∀ a ∈ settings, a.2 < integerBound) →
      Assigns (String.ofList (Toml.documentText (document settings))) settings) ∧
    (∀ s settings, Assigns s settings →
      ofText s = outcome ((firstZero? settings).map .zero) (ofSettings settings) ∧
      ∀ t settings', Assigns t settings' → settings.Perm settings' → ofText s = ofText t) ∧
    (∀ k, ∃ t, (LimitsError.zero k).message = "invalid config: " ++ k.name ++ t) ∧
    (∀ s path, HasName s path → ¬IsKnown path → ofText s = .error .malformed) ∧
    (∀ s l, ofText s = .ok l →
      l.validate = .ok l ∧ 1 ≤ l.filterDepth ∧ 1 ≤ l.orderKeys ∧ ∀ n, l.top = some n → 1 ≤ n) := by
  refine ⟨Toml.readDocument_documentText, fun settings => assigns_document, ?_, message_zero,
    fun s path => ofText_of_hasName, ?_⟩
  · intro s settings hs
    refine ⟨ofText_of_assigns hs, ?_⟩
    intro t settings' ht hperm
    obtain ⟨hzero, hvalues⟩ := outcome_perm hperm hs.nodup
    rw [ofText_of_assigns hs, ofText_of_assigns ht, hzero, hvalues]
  · intro s l h
    have hzero := zero?_of_ofText h
    refine ⟨?_, zero?_eq_none_iff.1 hzero⟩
    rw [validate, hzero]

/-- Two zeros in the other order, an unknown name beside a zero, and a document of one setting. -/
theorem limits_of_documents_zeros :
    (Assigns "[compiler]\nmax_top=0\nmax_order_keys=0" [(.top, 0), (.orderKeys, 0)] ∧
      ofText "[compiler]\nmax_top=0\nmax_order_keys=0" = .error (.zero .orderKeys)) ∧
    (HasName "[compiler]\nmax_top=0\nmax_depth=3" ["compiler", "max_depth"] ∧ ¬IsKnown ["compiler", "max_depth"] ∧
      ofText "[compiler]\nmax_top=0\nmax_depth=3" = .error .malformed) ∧
    (Assigns "[compiler]\nmax_top=500" [(.top, 500)] ∧ ofText "[compiler]\nmax_top=500" = .ok ⟨128, 32, some 500⟩ ∧
      (⟨128, 32, some 500⟩ : Limits).validate = .ok ⟨128, 32, some 500⟩) := by
  obtain ⟨hread, hdocument, hassigns, -, hname, hloaded⟩ := limits_of_documents
  have hzeros : Assigns "[compiler]\nmax_top=0\nmax_order_keys=0" [(.top, 0), (.orderKeys, 0)] := by
    have htext : "[compiler]\nmax_top=0\nmax_order_keys=0" =
        String.ofList (Toml.documentText (document [(.top, 0), (.orderKeys, 0)])) := by decide +kernel
    rw [htext]
    exact hdocument _ (by decide) (by decide)
  have hunknown : HasName "[compiler]\nmax_top=0\nmax_depth=3" ["compiler", "max_depth"] := by
    let depth : Toml.PlainPath := .ofKey (.ofName "max_depth" (by decide) (List.all_eq_true.1 (by decide)))
    let lines := document [(.top, 0)] ++ [.ofBody (.assign depth [] Toml.blank_nil 3)]
    have htext : "[compiler]\nmax_top=0\nmax_depth=3".toList = Toml.documentText lines := by decide +kernel
    refine ⟨Toml.statements lines, by rw [htext, hread], ?_⟩
    exact .afterTable _ (.afterAssign _ _ (.assign _ _ _ (.here _)))
  have hpath : ¬IsKnown ["compiler", "max_depth"] := by
    rintro (h | ⟨s, h⟩)
    · cases h
    · cases s <;> simp [LimitSetting.name] at h
  have htop : Assigns "[compiler]\nmax_top=500" [(.top, 500)] := by
    have htext : "[compiler]\nmax_top=500" = String.ofList (Toml.documentText (document [(.top, 500)])) := by
      decide +kernel
    rw [htext]
    exact hdocument _ (by decide) (by decide)
  have hload : ofText "[compiler]\nmax_top=500" = .ok ⟨128, 32, some 500⟩ := (hassigns _ _ htop).1
  exact ⟨⟨hzeros, (hassigns _ _ hzeros).1⟩, ⟨hunknown, hpath, hname _ _ hunknown hpath⟩,
    ⟨htop, hload, (hloaded _ _ hload).1⟩⟩

end Limits

end TableQuery
