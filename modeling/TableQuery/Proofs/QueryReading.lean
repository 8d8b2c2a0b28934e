import TableQuery.Proofs.Composition
import TableQuery.Proofs.FilterReading
import TableQuery.Proofs.FormDecoding
/-!
# Query strings read back

A query string is read pair by pair: a key goes up to the first equals sign, a filter as far as its phrase,
and any other value up to the next ampersand. Keys of the caller's own are never taken for keys of the
service. So the string determines all that it was composed from, the filter by its text.
-/

namespace TableQuery

/-! ## Keys -/

/-- A key that is not reserved begins with neither a dollar nor two underscores. -/
theorem isReservedKey_eq_false {key : String} :
    isReservedKey key = false ↔
      ∃ c s, key.toList = c :: s ∧ c ≠ '$' ∧ (c = '_' → s.head? ≠ some '_') := by
  unfold isReservedKey
  split
  · rename_i h
    simp [h]
  · rename_i s h
    simp [h]
  · rename_i s h
    simp [h]
  · rename_i hnil hdollar hunder
    refine iff_of_true rfl ?_
    cases hk : key.toList with
    | nil => exact absurd hk hnil
    | cons c s =>
      refine ⟨c, s, rfl, ?_, ?_⟩
      · rintro rfl
        exact hdollar s hk
      · rintro rfl hs
        cases s with
        | nil => cases hs
        | cons d s =>
          cases hs
          exact hunder s hk

namespace ServiceParameter

theorem name_inj {p p' : ServiceParameter} (h : p.name = p'.name) : p = p' := by
  revert h
  cases p <;> cases p' <;> decide

theorem mem_all (p : ServiceParameter) : p ∈ all := by cases p <;> decide

theorem isReservedKey_name (p : ServiceParameter) : isReservedKey p.name = true := by cases p <;> rfl

theorem not_mem_name (p : ServiceParameter) : '=' ∉ p.name.toList := by cases p <;> decide

end ServiceParameter

namespace FormEncoding

/-- An encoded character begins with an underscore only if it is one, and never with a dollar. -/
theorem exists_encodeChar_eq_cons (c : Char) :
    ∃ d s, encodeChar c = d :: s ∧ d ≠ '$' ∧ (d = '_' → c = '_') := by
  unfold encodeChar
  split
  · rename_i h
    refine ⟨c, [], rfl, ?_, id⟩
    rintro rfl
    exact absurd h (by decide)
  · split
    · exact ⟨'+', [], rfl, by decide, fun h => absurd h (by decide)⟩
    · cases hbytes : String.utf8EncodeChar c with
      | nil => exact absurd hbytes String.utf8EncodeChar_ne_nil
      | cons b bs => exact ⟨'%', _, rfl, by decide, fun h => absurd h (by decide)⟩

/-- Encoding reserves no key. -/
theorem isReservedKey_encode {key : String} (h : isReservedKey key = false) :
    isReservedKey (encode key) = false := by
  obtain ⟨c, cs, hkey, -, hunder⟩ := isReservedKey_eq_false.1 h
  obtain ⟨d, s, hd, hdollar, hback⟩ := exists_encodeChar_eq_cons c
  refine isReservedKey_eq_false.2 ⟨d, s ++ cs.flatMap encodeChar, ?_, hdollar, ?_⟩
  · rw [encode, String.toList_ofList, hkey, List.flatMap_cons, hd, List.cons_append]
  · intro hdu
    obtain rfl := hback hdu
    obtain rfl : s = [] := (List.cons.inj hd).2.symm
    cases cs with
    | nil => simp
    | cons c' cs =>
      obtain ⟨d', s', hd', -, hback'⟩ := exists_encodeChar_eq_cons c'
      rw [List.nil_append, List.flatMap_cons, hd']
      intro hhead
      exact hunder rfl (congrArg some (hback' (Option.some.inj hhead)))

end FormEncoding

namespace Query

/-! ## Pairs -/

/-- The pairs as they stand in a query string. -/
def joined (ps : List (String × String)) : List Char := ("&".intercalate (ps.map pairText)).toList

/-- A key, its value, and then the end or an ampersand and more pairs. -/
theorem joined_cons (p : String × String) (ps : List (String × String)) :
    joined (p :: ps) =
      p.1.toList ++ '=' :: (p.2.toList ++ if ps = [] then [] else '&' :: joined ps) := by
  cases ps with
  | nil => simp [joined, pairText]
  | cons q ps => simp [joined, pairText, String.toList_intercalate]

/-- The key shows where it ends, and how to find the end of the value. -/
structure Legible (p : String × String) : Prop where
  key : '=' ∉ p.1.toList
  filter : p.1 = ServiceParameter.filter.name → ∃ x : Phrase, x.WellFormed ∧ x.text = p.2.toList
  value : p.1 ≠ ServiceParameter.filter.name → '&' ∉ p.2.toList

theorem stops_rest (ps : List (String × String)) :
    Stops (if ps = [] then [] else '&' :: joined ps) := by
  split
  · intro c hc
    cases hc
  · exact stops_cons (by simp) _

theorem Legible.value_append_inj {key v w : String} (hv : Legible (key, v)) (hw : Legible (key, w))
    {ps qs : List (String × String)}
    (h : v.toList ++ (if ps = [] then [] else '&' :: joined ps) =
      w.toList ++ if qs = [] then [] else '&' :: joined qs) :
    v = w ∧ (if ps = [] then [] else '&' :: joined ps) = if qs = [] then [] else '&' :: joined qs := by
  by_cases hkey : key = ServiceParameter.filter.name
  · obtain ⟨x, hx, hxv⟩ := hv.filter hkey
    obtain ⟨y, hy, hyw⟩ := hw.filter hkey
    dsimp only at hxv hyw
    rw [← hxv, ← hyw] at h
    obtain ⟨rfl, hrest⟩ := hx.delimited y hy _ _ (stops_rest ps) (stops_rest qs) h
    exact ⟨String.toList_inj.1 (hxv.symm.trans hyw), hrest⟩
  · have hnot {s : String} (hs : Legible (key, s)) : ∀ c ∈ s.toList, c ≠ '&' := by
      rintro c hc rfl
      exact hs.value hkey hc
    have hend (rs : List (String × String)) :
        ∀ c ∈ (if rs = [] then [] else '&' :: joined rs).head?, ¬c ≠ '&' := by
      split <;> simp
    obtain ⟨hvw, hrest⟩ := run_append_inj (p := fun c => c ≠ '&') (hnot hv) (hnot hw) (hend ps) (hend qs) h
    exact ⟨String.toList_inj.1 hvw, hrest⟩

/-- Legible pairs are told apart in a query string. -/
theorem joined_inj {ps qs : List (String × String)} (hps : ∀ p ∈ ps, Legible p)
    (hqs : ∀ q ∈ qs, Legible q) (h : joined ps = joined qs) : ps = qs := by
  induction ps generalizing qs with
  | nil =>
    cases qs with
    | nil => rfl
    | cons q qs =>
      rw [joined_cons] at h
      exact absurd h.symm (by simp [joined])
  | cons p ps ih =>
    cases qs with
    | nil =>
      rw [joined_cons] at h
      exact absurd h (by simp [joined])
    | cons q qs =>
      obtain ⟨hp, hpst⟩ := List.forall_mem_cons.1 hps
      obtain ⟨hq, hqst⟩ := List.forall_mem_cons.1 hqs
      obtain ⟨key, v⟩ := p
      obtain ⟨key', w⟩ := q
      -- The keys first, then the values, and what is left are the pairs behind them.
      rw [joined_cons, joined_cons] at h
      obtain ⟨hkey, hrest⟩ := separator_append_inj hp.key hq.key h
      obtain rfl := String.toList_inj.1 hkey
      obtain ⟨rfl, hmore⟩ := hp.value_append_inj hq hrest
      by_cases hnil : ps = [] <;> by_cases hnil' : qs = []
      · rw [hnil, hnil']
      · rw [if_pos hnil, if_neg hnil'] at hmore
        cases hmore
      · rw [if_neg hnil, if_pos hnil'] at hmore
        cases hmore
      · rw [if_neg hnil, if_neg hnil'] at hmore
        rw [ih hpst hqst (List.tail_eq_of_cons_eq hmore)]

/-! ## Composed queries -/

variable {e : Entity} {l : Limits} {q : Query}

theorem field_of_nameFault? {name : String} (h : nameFault? e name = none) :
    ∃ f, e.field? name = some f ∧ Filter.wireText e name = f.wireName := by
  unfold nameFault? at h
  cases hf : e.field? name with
  | none =>
    rw [hf] at h
    cases h
  | some f => exact ⟨f, rfl, by simp [Filter.wireText, hf]⟩

theorem nameFault?_of_orderFault? (h : q.orderFault? e l = none) :
    ∀ k ∈ q.order, nameFault? e k.field = none := by
  unfold orderFault? at h
  split at h
  · cases h
  · exact List.findSome?_eq_none_iff.1 h

theorem isReservedKey_of_keyFault? (h : q.parameters.entries.findSome? keyFault? = none) :
    ∀ a ∈ q.parameters.entries, isReservedKey a.1 = false := by
  intro a ha
  have hkey := List.findSome?_eq_none_iff.1 h a ha
  unfold keyFault? at hkey
  split at hkey
  · cases hkey
  · simpa using ‹¬isReservedKey a.1 = true›

theorem render_of_filterFault? {x : Expr} (h : q.filterFault? e l = none) (hx : q.predicate = some x) :
    Filter.render e l.filterDepth x = .ok (Filter.text e x) := by
  rw [filterFault?, hx, Option.bind_some, Option.map_eq_none_iff] at h
  exact Filter.render_eq_ok.2 ⟨h, rfl⟩

end Query

/-- Identifiers have none of the characters that separate what stands in a query string. -/
theorem IsIdentifier.not_mem {s : String} (h : IsIdentifier s) {c : Char} (hc : c.isAlphanum = false)
    (hu : c ≠ '_') : c ∉ s.toList := by
  intro hmem
  rcases h.2 c hmem with halnum | rfl
  · rw [hc] at halnum
    cases halnum
  · exact hu rfl

namespace Query

variable {e : Entity} {l : Limits} {q : Query}

theorem isIdentifier_wireText (he : e.Wired) {name : String} (h : nameFault? e name = none) :
    IsIdentifier (Filter.wireText e name) := by
  obtain ⟨f, hf, hwire⟩ := field_of_nameFault? h
  rw [hwire]
  exact he.identifier hf

theorem not_mem_orderText (he : e.Wired) {k : OrderKey} (h : nameFault? e k.field = none) {c : Char}
    (hc : c.isAlphanum = false) (hu : c ≠ '_') (hspace : c ≠ ' ') : c ∉ (orderText e k).toList := by
  have hwire := (isIdentifier_wireText he h).not_mem hc hu
  unfold orderText
  cases k.direction with
  | asc => exact hwire
  | desc =>
    rw [String.toList_append, List.mem_append]
    rintro (hmem | hmem)
    · exact hwire hmem
    · have hchars : c = ' ' ∨ c = 'd' ∨ c = 'e' ∨ c = 's' ∨ c = 'c' := by simpa using hmem
      rcases hchars with rfl | rfl | rfl | rfl | rfl
      · exact hspace rfl
      all_goals exact absurd hc (by decide)

theorem not_mem_toString (n : Nat) {c : Char} (hc : c.isDigit = false) : c ∉ (toString n).toList := by
  intro h
  rw [isDigit_of_mem_repr h] at hc
  cases hc

/-- No value but the filter has an ampersand. -/
theorem not_mem_value? (he : e.Wired) (h : q.fault? e l = none) {p : ServiceParameter} {v : String}
    (hp : p ≠ .filter) (hv : q.value? e p = some v) : '&' ∉ v.toList := by
  obtain ⟨-, -, horder, hselect, -, -⟩ := fault?_eq_none.1 h
  cases p with
  | filter => exact absurd rfl hp
  | deleted | count =>
    simp only [value?, Option.ite_none_right_eq_some, Option.some.injEq] at hv
    rw [← hv.2]
    decide
  | orderBy =>
    simp only [value?, Option.ite_none_left_eq_some, Option.some.injEq] at hv
    rw [← hv.2]
    intro hmem
    rcases mem_of_mem_intercalate hmem with hmem | ⟨x, hx, hmem⟩
    · exact absurd hmem (by decide)
    · obtain ⟨k, hk, rfl⟩ := List.mem_map.1 hx
      exact not_mem_orderText he (nameFault?_of_orderFault? horder k hk) (by decide) (by decide) (by decide) hmem
  | select =>
    simp only [value?, Option.ite_none_left_eq_some, Option.some.injEq] at hv
    rw [← hv.2]
    intro hmem
    rcases mem_of_mem_intercalate hmem with hmem | ⟨x, hx, hmem⟩
    · exact absurd hmem (by decide)
    · obtain ⟨f, hf, rfl⟩ := List.mem_map.1 hx
      have hname := List.findSome?_eq_none_iff.1 hselect f hf
      exact (isIdentifier_wireText he hname).not_mem (by decide) (by decide) hmem
  | skip | top =>
    obtain ⟨n, -, rfl⟩ := Option.map_eq_some_iff.1 hv
    exact not_mem_toString n (by decide)

theorem mem_servicePairs {a : String × String} :
    a ∈ q.servicePairs e ↔ ∃ p v, q.value? e p = some v ∧ a = (p.name, v) := by
  rw [servicePairs, List.mem_filterMap]
  constructor
  · rintro ⟨p, -, hp⟩
    obtain ⟨v, hv, rfl⟩ := Option.map_eq_some_iff.1 hp
    exact ⟨p, v, hv, rfl⟩
  · rintro ⟨p, v, hv, rfl⟩
    exact ⟨p, p.mem_all, by rw [hv]; rfl⟩

/-- All pairs of a query that is composed are legible. -/
theorem legible_of_mem_pairs (he : e.Wired) (h : q.fault? e l = none) {a : String × String}
    (ha : a ∈ q.pairs e) : Legible a := by
  rcases List.mem_append.1 ha with ha | ha
  · obtain ⟨p, v, hv, rfl⟩ := mem_servicePairs.1 ha
    refine ⟨p.not_mem_name, ?_, ?_⟩
    · intro hp
      obtain rfl := ServiceParameter.name_inj hp
      obtain ⟨x, hx, rfl⟩ := Option.map_eq_some_iff.1 hv
      have hevery := Filter.every_of_render (render_of_filterFault? (fault?_eq_none.1 h).2.1 hx)
      exact ⟨x.phrase e, Expr.wellFormed_phrase he hevery, Expr.text_phrase hevery⟩
    · intro hp
      refine not_mem_value? he h ?_ hv
      rintro rfl
      exact hp rfl
  · obtain ⟨entry, -, rfl⟩ := List.mem_map.1 ha
    refine ⟨FormEncoding.not_mem_encode (by decide) (by decide) (by decide), ?_, ?_⟩
    · intro hkey
      -- An encoded key has no dollar.
      have hdollar : '$' ∈ (encodedPair entry).1.toList := by
        rw [hkey]
        decide
      exact absurd hdollar (FormEncoding.not_mem_encode (by decide) (by decide) (by decide))
    · intro _
      exact FormEncoding.not_mem_encode (by decide) (by decide) (by decide)

/-- The pairs of the service are those with reserved keys. -/
theorem filter_pairs (h : ∀ a ∈ q.parameters.entries, isReservedKey a.1 = false) :
    (q.pairs e).filter (fun a => isReservedKey a.1) = q.servicePairs e ∧
      (q.pairs e).filter (fun a => !isReservedKey a.1) = q.parameters.entries.map encodedPair := by
  have hservice : ∀ a ∈ q.servicePairs e, isReservedKey a.1 = true := by
    intro a ha
    obtain ⟨p, v, -, rfl⟩ := mem_servicePairs.1 ha
    exact p.isReservedKey_name
  have hcustom : ∀ a ∈ q.parameters.entries.map encodedPair, isReservedKey a.1 = false := by
    intro a ha
    obtain ⟨entry, hentry, rfl⟩ := List.mem_map.1 ha
    exact FormEncoding.isReservedKey_encode (h entry hentry)
  -- All of the first part are kept by the one condition, and none of the second.
  rw [pairs, List.filter_append, List.filter_append]
  constructor
  · rw [List.filter_eq_self.2 hservice, List.append_right_eq_self, List.filter_eq_nil_iff]
    intro a ha
    simp [hcustom a ha]
  · have hnone : (q.servicePairs e).filter (fun a => !isReservedKey a.1) = [] := by
      apply List.filter_eq_nil_iff.2
      intro a ha
      simp [hservice a ha]
    rw [hnone, List.nil_append, List.filter_eq_self]
    intro a ha
    simp [hcustom a ha]

theorem value?_eq_of_servicePairs_eq {s t : Query} (h : s.servicePairs e = t.servicePairs e)
    (p : ServiceParameter) : s.value? e p = t.value? e p := by
  have hmem (q : Query) (v : String) : q.value? e p = some v ↔ (p.name, v) ∈ q.servicePairs e := by
    rw [mem_servicePairs]
    constructor
    · intro hv
      exact ⟨p, v, hv, rfl⟩
    · rintro ⟨p', v', hv, heq⟩
      obtain ⟨hname, rfl⟩ := Prod.mk.inj heq
      rwa [ServiceParameter.name_inj hname]
  ext v
  rw [hmem s, hmem t, h]

theorem encodedPair_inj {a b : String × String} (h : encodedPair a = encodedPair b) : a = b := by
  obtain ⟨hkey, hvalue⟩ := Prod.mk.inj h
  exact Prod.ext (FormEncoding.encode_inj hkey) (FormEncoding.encode_inj hvalue)

/-! ## What the values stand for -/

theorem wireText_inj (he : e.Wired) {m n : String} (hm : nameFault? e m = none)
    (hn : nameFault? e n = none) (h : Filter.wireText e m = Filter.wireText e n) : m = n := by
  obtain ⟨f, hf, hwire⟩ := field_of_nameFault? hm
  obtain ⟨g, hg, hwire'⟩ := field_of_nameFault? hn
  rw [hwire, hwire'] at h
  exact he.distinct hf hg h

theorem wireText_ne_desc (he : e.Wired) {m n : String} (hm : nameFault? e m = none) :
    Filter.wireText e m ≠ Filter.wireText e n ++ " desc" := by
  intro h
  have hspace : ' ' ∈ (Filter.wireText e m).toList := by
    rw [h, String.toList_append]
    exact List.mem_append_right _ (by decide)
  exact (isIdentifier_wireText he hm).not_mem (by decide) (by decide) hspace

theorem orderText_inj (he : e.Wired) {k k' : OrderKey} (hk : nameFault? e k.field = none)
    (hk' : nameFault? e k'.field = none) (h : orderText e k = orderText e k') : k = k' := by
  obtain ⟨m, d⟩ := k
  obtain ⟨n, d'⟩ := k'
  dsimp only at hk hk'
  cases d <;> cases d'
  · rw [wireText_inj he hk hk' h]
  · exact absurd h (wireText_ne_desc he hk)
  · exact absurd h.symm (wireText_ne_desc he hk')
  · have hlist := congrArg String.toList h
    simp only [orderText, String.toList_append, List.append_cancel_right_eq] at hlist
    rw [wireText_inj he hk hk' (String.toList_inj.1 hlist)]

/-- Lists of names without commas, all or none of them written, are told apart. -/
theorem eq_of_commas_eq {α : Type} {f : α → String} {p : α → Prop} {xs ys : List α}
    (hinj : ∀ x y, p x → p y → f x = f y → x = y) (hcomma : ∀ x, p x → ',' ∉ (f x).toList)
    (hxs : ∀ x ∈ xs, p x) (hys : ∀ y ∈ ys, p y)
    (h : (if xs = [] then none else some (",".intercalate (xs.map f))) =
      if ys = [] then none else some (",".intercalate (ys.map f))) : xs = ys := by
  by_cases hx : xs = [] <;> by_cases hy : ys = []
  · rw [hx, hy]
  · rw [if_pos hx, if_neg hy] at h
    cases h
  · rw [if_neg hx, if_pos hy] at h
    cases h
  · rw [if_neg hx, if_neg hy] at h
    have hnone {zs : List α} (hzs : ∀ z ∈ zs, p z) : ∀ s ∈ zs.map f, ',' ∉ s.toList := by
      intro s hs
      obtain ⟨z, hz, rfl⟩ := List.mem_map.1 hs
      exact hcomma z (hzs z hz)
    exact eq_of_map_eq hinj hxs hys (intercalate_comma_inj (hnone hxs) (hnone hys) (by simpa using hx)
      (by simpa using hy) (Option.some.inj h))

theorem flag_inj {a b : Bool}
    (h : (if a then some "true" else none) = if b then some "true" else none) : a = b := by
  revert h
  cases a <;> cases b <;> decide

/-- A query string determines the query it was composed from, whatever the limits: the flags, the text of
the predicate, the order, the selection, the page and the parameters of the caller's own. -/
theorem eq_of_compose_eq (he : e.Wired) {s t : Query} {l m : Limits} {out : String}
    (hs : s.compose e l = .ok out) (ht : t.compose e m = .ok out) :
    s.deleted = t.deleted ∧ s.totalCount = t.totalCount ∧
      ((s.predicate = none ∧ t.predicate = none) ∨
        ∃ x y text, s.predicate = some x ∧ t.predicate = some y ∧
          Filter.render e l.filterDepth x = .ok text ∧ Filter.render e m.filterDepth y = .ok text) ∧
      s.order = t.order ∧ s.selection = t.selection ∧ s.skip = t.skip ∧ s.top = t.top ∧
      s.parameters = t.parameters := by
  obtain ⟨hsf, hsout⟩ := compose_eq_ok.1 hs
  obtain ⟨htf, htout⟩ := compose_eq_ok.1 ht
  obtain ⟨-, hsfilter, hsorder, hsselect, -, hskeys⟩ := fault?_eq_none.1 hsf
  obtain ⟨-, htfilter, htorder, htselect, -, htkeys⟩ := fault?_eq_none.1 htf
  -- The string gives the pairs, and their keys tell the service's from the caller's.
  have hpairs : s.pairs e = t.pairs e :=
    joined_inj (fun a ha => legible_of_mem_pairs he hsf ha) (fun a ha => legible_of_mem_pairs he htf ha)
      (by rw [joined, joined, hsout, htout])
  obtain ⟨hsservice, hscustom⟩ := filter_pairs (e := e) (isReservedKey_of_keyFault? hskeys)
  obtain ⟨htservice, htcustom⟩ := filter_pairs (e := e) (isReservedKey_of_keyFault? htkeys)
  have hservice : s.servicePairs e = t.servicePairs e := by rw [← hsservice, hpairs, htservice]
  have hcustom : s.parameters.entries.map encodedPair = t.parameters.entries.map encodedPair := by
    rw [← hscustom, hpairs, htcustom]
  have hvalue := value?_eq_of_servicePairs_eq hservice
  refine ⟨?_, ?_, ?_, ?_, ?_, ?_, ?_, ?_⟩
  · exact flag_inj (hvalue .deleted)
  · exact flag_inj (hvalue .count)
  · have h := hvalue .filter
    unfold value? at h
    cases hx : s.predicate with
    | none =>
      rw [hx, Option.map_none, eq_comm, Option.map_eq_none_iff] at h
      exact .inl ⟨rfl, h⟩
    | some x =>
      rw [hx, Option.map_some] at h
      obtain ⟨y, hy, hxy⟩ := Option.map_eq_some_iff.1 h.symm
      refine .inr ⟨x, y, Filter.text e x, rfl, hy, render_of_filterFault? hsfilter hx, ?_⟩
      rw [← hxy]
      exact render_of_filterFault? htfilter hy
  · refine eq_of_commas_eq (fun k k' => orderText_inj he) ?_ (nameFault?_of_orderFault? hsorder)
      (nameFault?_of_orderFault? htorder) (hvalue .orderBy)
    intro k hk
    exact not_mem_orderText he hk (by decide) (by decide) (by decide)
  · refine eq_of_commas_eq (fun m n => wireText_inj he) ?_ (List.findSome?_eq_none_iff.1 hsselect)
      (List.findSome?_eq_none_iff.1 htselect) (hvalue .select)
    intro n hn
    exact (isIdentifier_wireText he hn).not_mem (by decide) (by decide)
  · exact Option.map_injective (fun m n => repr_inj) (hvalue .skip)
  · exact Option.map_injective (fun m n => repr_inj) (hvalue .top)
  · have hentries : s.parameters.entries = t.parameters.entries :=
      (List.map_inj_right fun a b => encodedPair_inj).1 hcustom
    exact (SortedMap.mk.injEq ..).mpr hentries

/-- Two predicates with one text, in queries composed under different limits. -/
theorem eq_of_compose_eq_negative :
    let e : Entity := ⟨"item", [⟨"price", .int, some "price"⟩]⟩
    let price : Expr := .field "price" .int
    let s : Query :=
      { predicate := some (.binary (.comparison .gt) .bool price (.const (.int (-5)))), top := some 2 }
    let t : Query :=
      { predicate := some (.binary (.comparison .gt) .bool price (.unary .negate .int (.const (.int 5)))),
        top := some 2 }
    e.Wired ∧ s.compose e {} = .ok "$filter=(price gt -5)&$top=2" ∧
      t.compose e ⟨3, 0, some 2⟩ = .ok "$filter=(price gt -5)&$top=2" ∧
      ∃ x y text, s.predicate = some x ∧ t.predicate = some y ∧
        Filter.render e 128 x = .ok text ∧ Filter.render e 3 y = .ok text := by
  intro e price s t
  have he : e.Wired := Entity.wired_singleton _ (isIdentifier_of_all rfl rfl rfl)
  have hs : s.compose e {} = .ok "$filter=(price gt -5)&$top=2" := by rfl
  have ht : t.compose e ⟨3, 0, some 2⟩ = .ok "$filter=(price gt -5)&$top=2" := by rfl
  refine ⟨he, hs, ht, ?_⟩
  obtain ⟨-, -, ⟨hnone, -⟩ | hpredicate, -⟩ := eq_of_compose_eq he hs ht
  · cases hnone
  · exact hpredicate

end Query

end TableQuery
