import Mathlib.Data.List.Nodup
import TableQuery.Proofs.ByteOrder
import TableQuery.Proofs.Runs
import TableQuery.Proofs.Splitting
/-!
# Parameters of the caller's own

The parameters that a caller adds come last in a query string, and decoding them gives the keys and values that
were added, whatever these are. No two parameters of a query string have one name, and the order in which
different keys were added does not show.
-/

namespace TableQuery

/-- The key and the value that a call adds. -/
def Call.entry? : Call → Option (String × String)
  | parameter key value => some (key, value)
  | _ => none

theorem ServiceParameter.nodup_all : all.Nodup := by decide

namespace Query

variable {q : Query} {e : Entity} {l : Limits}

/-! ## Decoding -/

/-- The name of a parameter: what stands before the first equals sign. -/
def parameterName (text : String) : String := String.ofList (text.toList.takeWhile fun c => c != '=')

/-- The key up to the first equals sign and the value behind it, both decoded. -/
def decodePair? (text : String) : Option (String × String) := do
  let key ← FormEncoding.decode? (text.toList.takeWhile fun c => c != '=')
  let value ← FormEncoding.decode? ((text.toList.dropWhile fun c => c != '=').drop 1)
  return (key, value)

/-- The pairs that form-encoded text stands for. Nothing stands between two ampersands that follow each other. -/
def decodePairs? (text : String) : Option (List (String × String)) :=
  ((pieces text).filter fun piece => piece != "").mapM decodePair?

/-- A name without an equals sign shows where it ends. -/
theorem split_pairText {a : String × String} (h : '=' ∉ a.1.toList) :
    ((pairText a).toList.takeWhile fun c => c != '=') = a.1.toList ∧
      ((pairText a).toList.dropWhile fun c => c != '=').drop 1 = a.2.toList := by
  have htext : (pairText a).toList = a.1.toList ++ '=' :: a.2.toList := by simp [pairText]
  have hname : ∀ c ∈ a.1.toList, (c != '=') = true := by
    intro c hc
    rw [bne_iff_ne]
    rintro rfl
    exact h hc
  rw [htext, List.takeWhile_append_of_pos hname, List.dropWhile_append_of_pos hname]
  simp

theorem parameterName_pairText {a : String × String} (h : '=' ∉ a.1.toList) :
    parameterName (pairText a) = a.1 := by
  rw [parameterName, (split_pairText h).1, String.ofList_toList]

theorem not_mem_encodedPair (entry : String × String) : '=' ∉ (encodedPair entry).1.toList :=
  FormEncoding.not_mem_encode (by decide) (by decide) (by decide)

theorem decodePair?_pairText (entry : String × String) :
    decodePair? (pairText (encodedPair entry)) = some entry := by
  obtain ⟨hname, hvalue⟩ := split_pairText (not_mem_encodedPair entry)
  rw [decodePair?, hname, hvalue, encodedPair, FormEncoding.decode?_encode, FormEncoding.decode?_encode]
  rfl

theorem mapM_decodePair? (entries : List (String × String)) :
    (entries.map fun a => pairText (encodedPair a)).mapM decodePair? = some entries := by
  induction entries with
  | nil => rfl
  | cons a as ih =>
    rw [List.map_cons, List.mapM_cons, decodePair?_pairText, ih]
    rfl

theorem decodePairs?_intercalate (entries : List (String × String)) :
    decodePairs? ("&".intercalate (entries.map fun a => pairText (encodedPair a))) = some entries := by
  have hampersand : ∀ p ∈ entries.map (fun a => pairText (encodedPair a)), '&' ∉ p.toList := by
    intro p hp
    obtain ⟨a, -, rfl⟩ := List.mem_map.1 hp
    have hencoded (s : String) : '&' ∉ (FormEncoding.encode s).toList :=
      FormEncoding.not_mem_encode (by decide) (by decide) (by decide)
    simp [pairText, encodedPair, hencoded]
  have hsome : ∀ p ∈ entries.map (fun a => pairText (encodedPair a)), (p != "") = true := by
    intro p hp
    obtain ⟨a, -, rfl⟩ := List.mem_map.1 hp
    simp [pairText]
  rw [decodePairs?]
  by_cases hnil : entries = []
  · -- The empty text is one piece with nothing in it.
    rw [hnil, List.map_nil, String.intercalate_nil, pieces_of_not_mem (by decide)]
    rfl
  · rw [(pieces_intercalate_eq_iff (by simpa using hnil)).2 hampersand, List.filter_eq_self.2 hsome,
      mapM_decodePair?]

/-! ## Names -/

theorem nodup_serviceNames (q : Query) (e : Entity) : ((q.servicePairs e).map Prod.fst).Nodup := by
  rw [List.Nodup, List.pairwise_map, servicePairs, List.pairwise_filterMap]
  refine ServiceParameter.nodup_all.imp ?_
  intro p p' hne a ha b hb heq
  obtain ⟨v, -, rfl⟩ := Option.map_eq_some_iff.1 ha
  obtain ⟨w, -, rfl⟩ := Option.map_eq_some_iff.1 hb
  exact hne (ServiceParameter.name_inj heq)

theorem nodup_encodedKeys (m : SortedMap String) : ((m.entries.map encodedPair).map Prod.fst).Nodup := by
  rw [List.Nodup, List.pairwise_map, List.pairwise_map]
  refine m.pairwise_ne.imp ?_
  intro a b hne heq
  exact hne (FormEncoding.encode_inj heq)

/-- The service's names are reserved, and those that are encoded are not. -/
theorem nodup_names (h : ∀ a ∈ q.parameters.entries, isReservedKey a.1 = false) :
    ((q.pairs e).map Prod.fst).Nodup := by
  rw [pairs, List.map_append, List.nodup_append]
  refine ⟨nodup_serviceNames q e, nodup_encodedKeys q.parameters, ?_⟩
  rintro name hservice _ hcustom rfl
  obtain ⟨a, ha, rfl⟩ := List.mem_map.1 hservice
  obtain ⟨p, v, -, rfl⟩ := mem_servicePairs.1 ha
  obtain ⟨b, hb, hname⟩ := List.mem_map.1 hcustom
  obtain ⟨entry, hentry, rfl⟩ := List.mem_map.1 hb
  have hreserved := FormEncoding.isReservedKey_encode (h entry hentry)
  rw [show FormEncoding.encode entry.1 = p.name from hname, p.isReservedKey_name] at hreserved
  cases hreserved

theorem not_mem_pairs {a : String × String} (ha : a ∈ q.pairs e) : '=' ∉ a.1.toList := by
  rcases List.mem_append.1 ha with ha | ha
  · obtain ⟨p, v, -, rfl⟩ := mem_servicePairs.1 ha
    exact p.not_mem_name
  · obtain ⟨entry, -, rfl⟩ := List.mem_map.1 ha
    exact not_mem_encodedPair entry

theorem map_parameterName_pairs (q : Query) (e : Entity) :
    ((q.pairs e).map pairText).map parameterName = (q.pairs e).map Prod.fst := by
  rw [List.map_map]
  apply List.map_congr_left
  intro a ha
  exact parameterName_pairText (not_mem_pairs ha)

/-! ## Order -/

/-- A parameter with a key of the service is not added. -/
def addEntry (m : SortedMap String) (a : String × String) : SortedMap String :=
  if isReservedKey a.1 then m else m.insert a.1 a.2

def withParameters (q : Query) (m : SortedMap String) : Query := { q with parameters := m }

/-- Calls of another kind neither look at the parameters nor change them. -/
theorem call_withParameters {c : Call} (hc : c.entry? = none) (q : Query) (m : SortedMap String) :
    (q.withParameters m).call c = (q.call c).map fun r => r.withParameters m := by
  unfold withParameters
  cases c with
  | filter x =>
    simp only [call, addPredicate]
    split
    · rfl
    · split <;> rfl
  | skip n | take n =>
    simp only [call, pageBound]
    split <;> rfl
  | parameter key value => cases hc
  | _ => rfl

theorem after_withParameters {calls : List Call} (hcalls : ∀ c ∈ calls, c.entry? = none) (q : Query)
    (m : SortedMap String) : (q.withParameters m).after calls = (q.after calls).withParameters m := by
  induction calls generalizing q with
  | nil => rfl
  | cons c cs ih =>
    obtain ⟨hc, hcs⟩ := List.forall_mem_cons.1 hcalls
    rw [after, after, call_withParameters hc]
    cases q.call c with
    | ok r => exact ih hcs r
    | error err => exact ih hcs q

theorem parameters_call {c : Call} (hc : c.entry? = none) {q r : Query} (h : q.call c = .ok r) :
    r.parameters = q.parameters := by
  have hsame := call_withParameters hc q q.parameters
  rw [show q.withParameters q.parameters = q from rfl, h] at hsame
  have hr : r = r.withParameters q.parameters := Except.ok.inj hsame
  rw [hr]
  rfl

theorem after_parameter (q : Query) (key value : String) (cs : List Call) :
    q.after (.parameter key value :: cs) =
      (q.withParameters (addEntry q.parameters (key, value))).after cs := by
  rw [after, call, addEntry]
  by_cases h : isReservedKey key = true
  · rw [if_pos h, if_pos h]
    rfl
  · rw [if_neg h, if_neg h]
    rfl

/-- The parameters and all else can be told apart in a run of calls. -/
theorem after_eq (q : Query) (calls : List Call) :
    q.after calls =
      (q.after (calls.filter fun c => c.entry?.isNone)).withParameters
        ((calls.filterMap Call.entry?).foldl addEntry q.parameters) := by
  induction calls generalizing q with
  | nil => rfl
  | cons c cs ih =>
    cases hc : c.entry? with
    | none =>
      rw [List.filter_cons_of_pos (by simp [hc]), List.filterMap_cons_none hc, after, after]
      cases hr : q.call c with
      | ok r =>
        rw [← parameters_call hc hr]
        exact ih r
      | error err => exact ih q
    | some a =>
      rw [List.filter_cons_of_neg (by simp [hc]), List.filterMap_cons_some hc, List.foldl_cons]
      have hothers : ∀ c ∈ cs.filter (fun c => c.entry?.isNone), c.entry? = none := by
        intro c hmem
        exact Option.isNone_iff_eq_none.1 (List.mem_filter.1 hmem).2
      cases c with
      | parameter key value =>
        cases hc
        rw [after_parameter, ih, after_withParameters hothers]
        rfl
      | _ => cases hc

/-- Parameters with different keys can be added in any order. -/
theorem foldl_addEntry_perm {as bs : List (String × String)} (h : as.Perm bs)
    (hkeys : (as.map Prod.fst).Nodup) (m : SortedMap String) : as.foldl addEntry m = bs.foldl addEntry m := by
  refine h.foldl_eq' ?_ m
  intro a ha b hb m
  by_cases hkey : a.1 = b.1
  · rw [List.inj_on_of_nodup_map hkeys ha hb hkey]
  · unfold addEntry
    split <;> split <;> first | rfl | exact m.insert_comm hkey a.2 b.2

theorem after_perm (q : Query) {cs ds : List Call}
    (hothers : (cs.filter fun c => c.entry?.isNone) = ds.filter fun c => c.entry?.isNone)
    (hentries : (cs.filterMap Call.entry?).Perm (ds.filterMap Call.entry?))
    (hkeys : ((cs.filterMap Call.entry?).map Prod.fst).Nodup) : q.after cs = q.after ds := by
  rw [after_eq q cs, after_eq q ds, hothers, foldl_addEntry_perm hentries hkeys]

/-! ## The whole query -/

/-- The parameters that a query holds come last and decode to its keys and values, in the order of the keys'
bytes. No two parameters of any kind have one name, and none of the query's own begins as the service's do. Made
by the same calls with its parameters added in another order, the query gives the same string. -/
theorem parameters_read_back {ps : List String} (h : q.parameterTexts e l = .ok ps) :
    ∃ service custom, ps = service ++ custom ∧ custom.length = q.parameters.entries.length ∧
      decodePairs? ("&".intercalate custom) = some q.parameters.entries ∧
      (q.parameters.entries.map fun a => utf8Bytes a.1).Pairwise (· < ·) ∧
      (ps.map parameterName).Nodup ∧
      (∀ p ∈ custom, ¬['$'] <+: (parameterName p).toList ∧ ¬['_', '_'] <+: (parameterName p).toList) ∧
      ∀ (r : Query) (cs ds : List Call), r.after cs = q →
        ((cs.filter fun c => c.entry?.isNone) = ds.filter fun c => c.entry?.isNone) →
        (cs.filterMap Call.entry?).Perm (ds.filterMap Call.entry?) →
        ((cs.filterMap Call.entry?).map Prod.fst).Nodup →
        (r.after ds).compose e l = .ok ("&".intercalate ps) := by
  rw [parameterTexts_eq, outcome_eq_ok] at h
  obtain ⟨hfault, rfl⟩ := h
  obtain ⟨-, -, -, -, -, hkeys⟩ := fault?_eq_none.1 hfault
  have hfree := isReservedKey_of_keyFault? hkeys
  refine ⟨(q.servicePairs e).map pairText, q.parameters.entries.map fun a => pairText (encodedPair a),
    ?_, ?_, ?_, ?_, ?_, ?_, ?_⟩
  · rw [pairs, List.map_append, List.map_map]
    rfl
  · exact List.length_map _
  · exact decodePairs?_intercalate q.parameters.entries
  · rw [List.pairwise_map]
    exact q.parameters.sorted.imp utf8Bytes_lt
  · rw [map_parameterName_pairs]
    exact nodup_names hfree
  · intro p hp
    obtain ⟨a, ha, rfl⟩ := List.mem_map.1 hp
    rw [parameterName_pairText (not_mem_encodedPair a)]
    have hname : ¬isReservedKey (encodedPair a).1 = true := by
      simpa [encodedPair] using FormEncoding.isReservedKey_encode (hfree a ha)
    rw [isReservedKey_iff, not_or, not_or] at hname
    exact hname.2
  · intro r cs ds hq hothers hentries hnodup
    rw [← after_perm r hothers hentries hnodup, hq, compose_eq, hfault]
    rfl

/-- A value with separators in it and an empty one, added in either order. -/
theorem parameters_read_back_separators :
    let e : Entity := ⟨"film", []⟩
    let z : Call := .parameter "z" ""
    let ab : Call := .parameter "a b" "ü&1=2"
    let q : Query := ({} : Query).after [z, .take 2, ab]
    q.parameterTexts e {} = .ok ["$top=2", "a+b=%C3%BC%261%3D2", "z="] ∧
      decodePairs? "a+b=%C3%BC%261%3D2&z=" = some [("a b", "ü&1=2"), ("z", "")] ∧
      (({} : Query).after [ab, z, .take 2]).compose e {} = .ok "$top=2&a+b=%C3%BC%261%3D2&z=" := by
  intro e z ab q
  have h : q.parameterTexts e {} = .ok ["$top=2", "a+b=%C3%BC%261%3D2", "z="] := by rfl
  obtain ⟨service, custom, hps, hlength, hdecode, -, -, -, horder⟩ := parameters_read_back h
  have hcut : ["$top=2"] ++ ["a+b=%C3%BC%261%3D2", "z="] = service ++ custom := hps
  obtain ⟨-, rfl⟩ := List.append_inj' hcut hlength.symm
  refine ⟨h, hdecode, ?_⟩
  exact horder {} [z, .take 2, ab] [ab, z, .take 2] rfl rfl (.swap _ _ _) (by decide)

end Query

end TableQuery
