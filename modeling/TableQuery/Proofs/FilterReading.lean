import TableQuery.Proofs.Building
import TableQuery.Proofs.Constants
import TableQuery.Proofs.FilterText
/-!
# Filters read back

The text of a filter is that of a phrase, and the phrase gives the tree back. Two things cannot be
seen in it: what an instant has below the millisecond, and whether a minus belongs to a constant or to
a negation of one (`Expr.normal`).
-/

namespace TableQuery

/-! ## Wire names -/

/-- A letter or an underscore, then letters, digits and underscores, all of them ASCII. -/
def IsIdentifier (s : String) : Prop :=
  (∃ c ∈ s.toList.head?, c.isAlpha = true ∨ c = '_') ∧
    ∀ c ∈ s.toList, c.isAlphanum = true ∨ c = '_'

theorem isIdentifier_of_all {s : String} {c : Char} (hc : s.toList.head? = some c)
    (halpha : c.isAlpha = true) (h : s.toList.all (fun d => d.isAlphanum || d == '_') = true) :
    IsIdentifier s := by
  refine ⟨⟨c, hc, .inl halpha⟩, ?_⟩
  intro d hd
  simpa using List.all_eq_true.1 h d hd

/-- Fields that the entity finds have wire names of their own, which are identifiers. -/
structure Entity.Wired (e : Entity) : Prop where
  distinct : ∀ {m n : String} {f g : EntityField}, e.field? m = some f → e.field? n = some g →
    f.wireName = g.wireName → m = n
  identifier : ∀ {n : String} {f : EntityField}, e.field? n = some f → IsIdentifier f.wireName

/-- No wire name is written like a constant. -/
def Entity.AvoidsKeywords (e : Entity) : Prop :=
  ∀ n f, e.field? n = some f → f.wireName ∉ Value.keywords

theorem Entity.eq_of_field?_singleton {entity n : String} {f g : EntityField}
    (h : (Entity.mk entity [f]).field? n = some g) : n = f.name ∧ g = f := by
  have hname := List.find?_some h
  obtain rfl := List.mem_singleton.1 (List.mem_of_find?_eq_some h)
  exact ⟨(by simpa using hname : g.name = n).symm, rfl⟩

theorem Entity.wired_singleton (entity : String) {f : EntityField} (h : IsIdentifier f.wireName) :
    (Entity.mk entity [f]).Wired where
  distinct hf hg _ := by rw [(eq_of_field?_singleton hf).1, (eq_of_field?_singleton hg).1]
  identifier hf := by
    rw [(eq_of_field?_singleton hf).2]
    exact h

theorem IsIdentifier.isWord {s : String} (h : IsIdentifier s) : IsWord s.toList := by
  obtain ⟨⟨c, hc, hhead⟩, hall⟩ := h
  constructor
  · refine ⟨c, hc, ?_⟩
    rintro rfl
    exact absurd hhead (by decide)
  · intro d hd
    rcases hall d hd with hd | rfl
    · simp [isWordChar, hd]
    · decide

theorem not_isDigit_of_isAlpha {c : Char} (h : c.isAlpha = true) : ¬c.isDigit = true := by
  intro hdigit
  have halpha := toNat_of_isAlpha h
  have hrange := toNat_of_isDigit hdigit
  omega

/-- Numerals begin with a digit, and identifiers do not. -/
theorem IsIdentifier.ne_numeral {s : String} (h : IsIdentifier s) (a : Numeral) :
    s.toList ≠ a.text.toList := by
  intro heq
  obtain ⟨⟨c, hc, hhead⟩, -⟩ := h
  obtain ⟨d, hd, hdigit⟩ := a.head?_text
  rw [heq, Option.mem_def.1 hd] at hc
  cases hc
  rcases hhead with hhead | rfl
  · exact not_isDigit_of_isAlpha hhead hdigit
  · exact absurd hdigit (by decide)

namespace Expr

/-! ## Phrases of expressions -/

mutual
/-- The phrase that an expression is written as. -/
def phrase (e : Entity) : Expr → Phrase
  | const v => v.phrase
  | field name _ => .word (Filter.wireText e name).toList
  | unary .not _ x => .call "not".toList [phrase e x]
  | unary .negate _ x => .minus (phrase e x)
  | binary op _ l r => .pair op.token.toList (phrase e l) (phrase e r)
  | call f _ args => .call f.name.toList (phrases e args)

/-- The phrases of arguments. -/
def phrases (e : Entity) : List Expr → List Phrase
  | [] => []
  | x :: xs => phrase e x :: phrases e xs
end

theorem phrases_eq (e : Entity) (xs : List Expr) : phrases e xs = xs.map (phrase e) := by
  induction xs with
  | nil => rfl
  | cons x xs ih => rw [phrases, List.map_cons, ih]

theorem argumentsText_eq (ps : List Phrase) :
    Phrase.argumentsText ps = [','].intercalate (ps.map Phrase.text) := by
  induction ps with
  | nil => rfl
  | cons p ps ih =>
    cases ps with
    | nil => simp [Phrase.argumentsText]
    | cons q ps =>
      rw [Phrase.argumentsText, ih]
      simp

/-- What is written is the text of the phrase. -/
theorem text_phrase {e : Entity} {x : Expr} (h : x.Every fun y => Filter.nodeFault? e y = none) :
    (x.phrase e).text = (Filter.text e x).toList := by
  induction x with
  | const v => exact Value.text_phrase (by simpa [Filter.nodeFault?] using h.here)
  | field name type => rfl
  | unary op type x ih =>
    have hx := ih (every_unary.1 h).2
    cases op with
    | not => simp [phrase, Phrase.text, Phrase.argumentsText, Filter.text, UnaryOp.form, hx]
    | negate => simp [phrase, Phrase.text, Filter.text, UnaryOp.form, hx]
  | binary op type l r ihl ihr =>
    obtain ⟨-, hl, hr⟩ := every_binary.1 h
    simp [phrase, Phrase.text, Filter.text, ihl hl, ihr hr]
  | call f type args ih =>
    have hargs : args.map (fun x => (x.phrase e).text) = args.map fun x => (Filter.text e x).toList :=
      List.map_congr_left fun x hx => ih x hx ((every_call.1 h).2 x hx)
    simp only [phrase, Phrase.text, Filter.text, argumentsText_eq, phrases_eq, Filter.texts_eq,
      List.map_map, Function.comp_def, hargs, String.toList_append, String.toList_intercalate]
    simp

theorem isWord_token (op : BinaryOp) : IsWord op.token.toList := by
  cases op with
  | logical op => cases op <;> exact isWord_of_all (by decide) (by decide)
  | comparison op => cases op <;> exact isWord_of_all (by decide) (by decide)
  | arithmetic op => cases op <;> exact isWord_of_all (by decide) (by decide)

theorem isWord_name (f : Function) : IsWord f.name.toList := by
  cases f <;> exact isWord_of_all (by decide) (by decide)

/-- A field without a fault is found with its type. -/
theorem exists_field_of_nodeFault? {e : Entity} {name : String} {type : ScalarType}
    (h : Filter.nodeFault? e (field name type) = none) :
    ∃ f, e.field? name = some f ∧ f.type = type ∧ Filter.wireText e name = f.wireName := by
  unfold Filter.nodeFault? at h
  dsimp only at h
  split at h
  · rename_i s hs
    obtain ⟨f, hf, ht, -⟩ := Entity.access_eq_ok.1 hs
    exact ⟨f, hf, ht, by simp [Filter.wireText, hf]⟩
  · cases h

theorem wellFormed_phrase {e : Entity} (he : e.Wired) {x : Expr}
    (h : x.Every fun y => Filter.nodeFault? e y = none) : (x.phrase e).WellFormed := by
  induction x with
  | const v => exact Value.wellFormed_phrase (by simpa [Filter.nodeFault?] using h.here)
  | field name type =>
    obtain ⟨f, hf, -, hwire⟩ := exists_field_of_nodeFault? h.here
    rw [phrase, hwire]
    exact .word (he.identifier hf).isWord
  | unary op type x ih =>
    have hx := ih (every_unary.1 h).2
    cases op with
    | not => exact .call (isWord_of_all (by decide) (by decide)) (List.forall_mem_singleton.2 hx)
    | negate => exact .minus hx
  | binary op type l r ihl ihr =>
    obtain ⟨-, hl, hr⟩ := every_binary.1 h
    exact .pair (isWord_token op) (ihl hl) (ihr hr)
  | call f type args ih =>
    rw [phrase, phrases_eq]
    refine .call (isWord_name f) ?_
    intro p hp
    obtain ⟨x, hx, rfl⟩ := List.mem_map.1 hp
    exact ih x hx ((every_call.1 h).2 x hx)

/-- Filters with the same text have the same phrase. -/
theorem phrase_eq_of_text_eq {e : Entity} (he : e.Wired) {x y : Expr}
    (hx : x.Every fun z => Filter.nodeFault? e z = none)
    (hy : y.Every fun z => Filter.nodeFault? e z = none) (h : Filter.text e x = Filter.text e y) :
    x.phrase e = y.phrase e := by
  have hend : Stops [] := by
    intro c hc
    cases hc
  have htext : (x.phrase e).text ++ [] = (y.phrase e).text ++ [] := by
    rw [text_phrase hx, text_phrase hy, h]
  obtain ⟨heq, -⟩ :=
    (wellFormed_phrase he hx).delimited _ (wellFormed_phrase he hy) [] [] hend hend htext
  exact heq

/-! ## Normal forms -/

/-- A negation, made part of its operand where that is a constant above zero. -/
def negation (t : ScalarType) (x : Expr) : Expr :=
  match x with
  | const v => v.negated?.elim (unary .negate t x) const
  | _ => unary .negate t x

mutual
/-- Instants cut to whole milliseconds, and negations of constants above zero as constants, from the
leaves up. -/
def normal : Expr → Expr
  | const v => const v.truncated
  | field name t => field name t
  | unary .not t x => unary .not t (normal x)
  | unary .negate t x => negation t (normal x)
  | binary op t l r => binary op t (normal l) (normal r)
  | call f t args => call f t (normals args)

/-- Arguments one by one. -/
def normals : List Expr → List Expr
  | [] => []
  | x :: xs => normal x :: normals xs
end

theorem type_negation {t : ScalarType} {x : Expr} (h : t = x.type) : (negation t x).type = t := by
  cases x with
  | const v =>
    cases v with
    | int n =>
      rw [negation, Value.negated?]
      split
      · exact h.symm
      · rfl
    | float32 x | float64 x =>
      rw [negation, Value.negated?]
      split
      · rfl
      · exact h.symm
    | _ => rfl
  | _ => rfl

/-- Normal forms keep their types. -/
theorem type_normal {x : Expr} (h : x.Every WellTyped) : x.normal.type = x.type := by
  induction x with
  | const v => cases v <;> rfl
  | unary op t x ih =>
    obtain ⟨hop, hx⟩ := every_unary.1 h
    cases op with
    | not => rfl
    | negate => exact type_negation (hop.2.trans (ih hx).symm)
  | _ => rfl

/-! ## Unambiguous filters -/

/-- What has to hold of a node for a phrase to give it back. -/
structure Regular (e : Entity) (x : Expr) : Prop where
  wellTyped : x.WellTyped
  fault : Filter.nodeFault? e x = none
  leaps : ∀ t, x = const (.timestamp t) → t.LeapsAtMinuteEnd

theorem Regular.value {e : Entity} {v : Value} (h : (const v).Regular e) : v.Regular :=
  ⟨by simpa [Filter.nodeFault?] using h.fault, fun t ht => h.leaps t (ht ▸ rfl)⟩

section
variable {e : Entity}

theorem type_eq_of_normal_eq {x y : Expr} (hx : x.Every (Regular e)) (hy : y.Every (Regular e))
    (h : x.normal = y.normal) : x.type = y.type := by
  rw [← type_normal (hx.mono fun z hz => hz.wellTyped), h, type_normal (hy.mono fun z hz => hz.wellTyped)]

theorem phrase_const_ne_field (he : e.Wired) (hk : e.AvoidsKeywords) {v : Value} {name : String}
    {type : ScalarType} (h : Filter.nodeFault? e (field name type) = none) :
    (const v).phrase e ≠ (field name type).phrase e := by
  intro heq
  obtain ⟨f, hf, -, hwire⟩ := exists_field_of_nodeFault? h
  rw [phrase, phrase, hwire] at heq
  rcases Value.of_phrase_eq_word heq with ⟨k, hkw, hname⟩ | ⟨a, -, hname⟩
  · exact hk name f hf (String.toList_inj.1 hname ▸ hkw)
  · exact (he.identifier hf).ne_numeral a hname

/-- A negation that is written like a constant has that constant as its normal form. -/
theorem normal_negate_of_phrase_eq (he : e.Wired) {v : Value} {t : ScalarType} {x : Expr}
    (hx : x.Every fun y => Filter.nodeFault? e y = none)
    (h : v.phrase = (unary .negate t x).phrase e) : (unary .negate t x).normal = (const v).normal := by
  -- Only a number is written with a minus, so the operand is written as its magnitude.
  obtain ⟨a, hv, hword⟩ := Value.of_phrase_eq_minus h
  cases x with
  | const w =>
    rcases Value.of_phrase_eq_word hword with ⟨k, hkw, hname⟩ | ⟨b, hw, hname⟩
    · exact absurd hname.symm (Value.keyword_ne_numeral hkw a)
    · cases Numeral.text_inj (String.toList_inj.1 hname)
      rw [normal, normal, normal, (Value.phrase_of_numeral? hv).2, (Value.phrase_of_numeral? hw).2,
        negation, Value.negated?_eq hv hw]
      rfl
  | field name type =>
    obtain ⟨f, hf, -, hwire⟩ := exists_field_of_nodeFault? hx.here
    rw [phrase, hwire] at hword
    exact absurd (Phrase.word.inj hword) ((he.identifier hf).ne_numeral a)
  | unary op t x => cases op <;> cases hword
  | _ => cases hword

/-- The types of the operands decide the type of a node. -/
theorem binary_type_eq {op : BinaryOp} {t t' : ScalarType} {l l' r r' : Expr}
    (h : (binary op t l r).WellTyped) (h' : (binary op t' l' r').WellTyped) (hl : l.type = l'.type)
    (hr : r.type = r'.type) : t = t' := by
  cases op with
  | logical op => exact h.2.2.trans h'.2.2.symm
  | comparison op => exact h.2.trans h'.2.symm
  | arithmetic op =>
    have ht := h.2.2
    rw [hl, hr, h'.2.2] at ht
    cases ht
    rfl

theorem headType_normals {args : List Expr} (h : ∀ x ∈ args, x.Every WellTyped) :
    (normals args).head?.elim .null type = args.head?.elim .null type := by
  cases args with
  | nil => rfl
  | cons x xs => exact type_normal (h x List.mem_cons_self)

/-- No regular tree with another normal form has the same phrase. -/
def Determined (e : Entity) (x : Expr) : Prop :=
  ∀ y : Expr, y.Every (Regular e) → x.phrase e = y.phrase e → x.normal = y.normal

theorem determined_const (he : e.Wired) (hk : e.AvoidsKeywords) {v : Value} (hv : (const v).Regular e) :
    (const v).Determined e := by
  intro y hy h
  cases y with
  | const w => exact congrArg const (Value.truncated_eq_of_phrase_eq hv.value hy.here.value h)
  | field name type => exact absurd h (phrase_const_ne_field he hk hy.here.fault)
  | unary op t y =>
    cases op with
    | not => exact absurd (Value.of_phrase_eq_call h) (by decide)
    | negate =>
      have hfault := (every_unary.1 hy).2.mono fun z hz => hz.fault
      exact (normal_negate_of_phrase_eq he hfault h).symm
  | binary op t l r => exact absurd h (Value.phrase_ne_pair v _ _ _)
  | call f t args => exact absurd (Value.of_phrase_eq_call h) (by cases f <;> decide)

theorem determined_field (he : e.Wired) (hk : e.AvoidsKeywords) {name : String} {type : ScalarType}
    (hfault : Filter.nodeFault? e (field name type) = none) : (field name type).Determined e := by
  intro y hy h
  cases y with
  | const w => exact absurd h.symm (phrase_const_ne_field he hk hfault)
  | field name' type' =>
    obtain ⟨f, hf, ht, hwire⟩ := exists_field_of_nodeFault? hfault
    obtain ⟨g, hg, hu, hwire'⟩ := exists_field_of_nodeFault? hy.here.fault
    rw [phrase, phrase, hwire, hwire'] at h
    obtain rfl := he.distinct hf hg (String.toList_inj.1 (Phrase.word.inj h))
    rw [hf] at hg
    cases hg
    rw [← ht, ← hu]
  | unary op t y => cases op <;> cases h
  | _ => cases h

theorem determined_not {t : ScalarType} {x : Expr} (hx : (unary .not t x).Every (Regular e))
    (ih : x.Determined e) : (unary .not t x).Determined e := by
  intro y hy h
  cases y with
  | const w => exact absurd (Value.of_phrase_eq_call h.symm) (by decide)
  | unary op t' y =>
    cases op with
    | not =>
      obtain ⟨hroot, -⟩ := every_unary.1 hx
      obtain ⟨hroot', hy⟩ := every_unary.1 hy
      have hxy := ih y hy (List.cons.inj (Phrase.call.inj h).2).1
      rw [normal, normal, hxy, hroot.wellTyped.2, hroot'.wellTyped.2]
    | negate => cases h
  | call f t' args => exact absurd (Phrase.call.inj h).1 (by cases f <;> decide)
  | _ => cases h

theorem determined_negate (he : e.Wired) {t : ScalarType} {x : Expr}
    (hx : (unary .negate t x).Every (Regular e)) (ih : x.Determined e) :
    (unary .negate t x).Determined e := by
  intro y hy h
  obtain ⟨hroot, hx⟩ := every_unary.1 hx
  cases y with
  | const w => exact normal_negate_of_phrase_eq he (hx.mono fun z hz => hz.fault) h.symm
  | unary op t' y =>
    cases op with
    | not => cases h
    | negate =>
      obtain ⟨hroot', hy⟩ := every_unary.1 hy
      have hxy := ih y hy (Phrase.minus.inj h)
      rw [normal, normal, hxy, hroot.wellTyped.2, hroot'.wellTyped.2, type_eq_of_normal_eq hx hy hxy]
  | _ => cases h

theorem determined_binary {op : BinaryOp} {t : ScalarType} {l r : Expr}
    (hx : (binary op t l r).Every (Regular e)) (ihl : l.Determined e) (ihr : r.Determined e) :
    (binary op t l r).Determined e := by
  intro y hy h
  obtain ⟨hroot, hl, hr⟩ := every_binary.1 hx
  cases y with
  | const w => exact absurd h.symm (Value.phrase_ne_pair w _ _ _)
  | unary op' t' y => cases op' <;> cases h
  | binary op' t' l' r' =>
    obtain ⟨hroot', hl', hr'⟩ := every_binary.1 hy
    obtain ⟨htoken, hpl, hpr⟩ := Phrase.pair.inj h
    have hop := BinaryOp.ofToken?_token op
    rw [String.toList_inj.1 htoken, BinaryOp.ofToken?_token] at hop
    cases hop
    have hln := ihl l' hl' hpl
    have hrn := ihr r' hr' hpr
    have hlt := type_eq_of_normal_eq hl hl' hln
    have hrt := type_eq_of_normal_eq hr hr' hrn
    rw [normal, normal, hln, hrn, binary_type_eq hroot.wellTyped hroot'.wellTyped hlt hrt]
  | _ => cases h

theorem normals_eq_of_phrases_eq {xs ys : List Expr} (hxs : ∀ x ∈ xs, x.Determined e)
    (hys : ∀ y ∈ ys, y.Every (Regular e)) (h : phrases e xs = phrases e ys) : normals xs = normals ys := by
  induction xs generalizing ys with
  | nil =>
    cases ys with
    | nil => rfl
    | cons y ys => cases h
  | cons x xs ih =>
    cases ys with
    | nil => cases h
    | cons y ys =>
      obtain ⟨hx, hxs⟩ := List.forall_mem_cons.1 hxs
      obtain ⟨hy, hys⟩ := List.forall_mem_cons.1 hys
      obtain ⟨hhead, htail⟩ := List.cons.inj h
      rw [normals, normals, hx y hy hhead, ih hxs hys htail]

theorem determined_call {f : Function} {t : ScalarType} {args : List Expr}
    (hx : (call f t args).Every (Regular e)) (ih : ∀ x ∈ args, x.Determined e) :
    (call f t args).Determined e := by
  intro y hy h
  cases y with
  | const w => exact absurd (Value.of_phrase_eq_call h.symm) (by cases f <;> decide)
  | unary op t' y =>
    cases op with
    | not => exact absurd (Phrase.call.inj h).1 (by cases f <;> decide)
    | negate => cases h
  | call f' t' args' =>
    obtain ⟨hroot, hargs⟩ := every_call.1 hx
    obtain ⟨hroot', hargs'⟩ := every_call.1 hy
    obtain ⟨hname, hps⟩ := Phrase.call.inj h
    have hf := Function.ofName?_name f
    rw [String.toList_inj.1 hname, Function.ofName?_name] at hf
    cases hf
    have hns := normals_eq_of_phrases_eq ih hargs' hps
    have htype : args.head?.elim .null type = args'.head?.elim .null type := by
      rw [← headType_normals fun x hx => (hargs x hx).mono fun z hz => hz.wellTyped, hns,
        headType_normals fun x hx => (hargs' x hx).mono fun z hz => hz.wellTyped]
    rw [normal, normal, hns, hroot.wellTyped.2.2, hroot'.wellTyped.2.2, htype]
  | _ => cases h

/-- The phrase of a regular tree determines its normal form. -/
theorem determined_of_regular (he : e.Wired) (hk : e.AvoidsKeywords) {x : Expr}
    (hx : x.Every (Regular e)) : x.Determined e := by
  induction x with
  | const v => exact determined_const he hk hx.here
  | field name type => exact determined_field he hk hx.here.fault
  | unary op t x ih =>
    cases op with
    | not => exact determined_not hx (ih (every_unary.1 hx).2)
    | negate => exact determined_negate he hx (ih (every_unary.1 hx).2)
  | binary op t l r ihl ihr =>
    obtain ⟨-, hl, hr⟩ := every_binary.1 hx
    exact determined_binary hx (ihl hl) (ihr hr)
  | call f t args ih =>
    obtain ⟨-, hargs⟩ := every_call.1 hx
    apply determined_call hx
    intro x hmem
    exact ih x hmem (hargs x hmem)

end

end Expr

/-- Filters that are built from typed operations and have the same text are the same up to normal form,
whatever the limits under which they are written. -/
theorem Filter.normal_eq_of_render_eq {e : Entity} (he : e.Wired) (hk : e.AvoidsKeywords) {a b : Expr}
    (ha : a.Built) (hb : b.Built)
    (hleapa : ∀ t, (Expr.const (.timestamp t)).Within a → t.LeapsAtMinuteEnd)
    (hleapb : ∀ t, (Expr.const (.timestamp t)).Within b → t.LeapsAtMinuteEnd) {m n : Nat} {s : String}
    (hra : render e m a = .ok s) (hrb : render e n b = .ok s) : a.normal = b.normal := by
  have hfa := every_of_render hra
  have hfb := every_of_render hrb
  have hphrase : a.phrase e = b.phrase e :=
    Expr.phrase_eq_of_text_eq he hfa hfb ((render_eq_ok.1 hra).2.trans (render_eq_ok.1 hrb).2.symm)
  have hrega : a.Every (Expr.Regular e) := by
    intro y hy
    refine ⟨(ha.every_sound y hy).wellTyped, hfa y hy, ?_⟩
    rintro t rfl
    exact hleapa t hy
  have hregb : b.Every (Expr.Regular e) := by
    intro y hy
    refine ⟨(hb.every_sound y hy).wellTyped, hfb y hy, ?_⟩
    rintro t rfl
    exact hleapb t hy
  exact Expr.determined_of_regular he hk hrega b hregb hphrase

/-- `price gt -5` with a negative constant, and with a negation of a positive one. -/
theorem Filter.normal_eq_of_render_eq_negative :
    let e : Entity := ⟨"item", [⟨"price", .int, some "price"⟩]⟩
    let a : Expr := .binary (.comparison .gt) .bool (.field "price" .int) (.const (.int (-5)))
    let b : Expr :=
      .binary (.comparison .gt) .bool (.field "price" .int) (.unary .negate .int (.const (.int 5)))
    e.Wired ∧ e.AvoidsKeywords ∧ a.Built ∧ b.Built ∧ render e 2 a = .ok "(price gt -5)" ∧
      render e 3 b = .ok "(price gt -5)" ∧ a.normal = b.normal := by
  intro e a b
  have he : e.Wired := Entity.wired_singleton _ (isIdentifier_of_all rfl rfl rfl)
  have hk : e.AvoidsKeywords := by
    intro n f hf
    rw [(Entity.eq_of_field?_singleton hf).2]
    decide
  have ha : a.Built :=
    @Expr.Built.binary (.comparison .gt) _ _ _ (.field "price" .int) (.const (.int (-5))) rfl
  have hnegate : (Expr.unary .negate .int (.const (.int 5))).Built :=
    @Expr.Built.unary .negate _ _ (.const (.int 5)) rfl
  have hb : b.Built := @Expr.Built.binary (.comparison .gt) _ _ _ (.field "price" .int) hnegate rfl
  have hra : render e 2 a = .ok "(price gt -5)" := by rfl
  have hrb : render e 3 b = .ok "(price gt -5)" := by rfl
  have hleapa : a.Every fun y => ∀ t, y = .const (.timestamp t) → t.LeapsAtMinuteEnd := by
    simp [a, Expr.every_binary]
  have hleapb : b.Every fun y => ∀ t, y = .const (.timestamp t) → t.LeapsAtMinuteEnd := by
    simp [b, Expr.every_binary, Expr.every_unary]
  exact ⟨he, hk, ha, hb, hra, hrb, normal_eq_of_render_eq he hk ha hb (fun t ht => hleapa _ ht t rfl)
    (fun t ht => hleapb _ ht t rfl) hra hrb⟩

end TableQuery
