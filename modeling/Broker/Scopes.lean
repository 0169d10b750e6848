import Broker.Cursors
import Broker.Lib.CodePoints

/-!
# Keys of scopes

The cursor of a listing is bound to the scope it is handed out for by the key of the scope,
which tells the scope up to the way its strings spell surrogate pairs (`key_eq_iff`). Requests
of the same scope go on from where the cursor stands, and those of another are refused
(`continuation_bound`).
-/

namespace Broker

open Py

/-- What a listing is of, whose strings may hold surrogates. -/
structure TextScope where
  containerId : Option Text
  query : Text
  sort : Text
  types : List Text
  deriving DecidableEq

namespace TextScope

/-! ## Keys -/

/-- The text of an optional string. -/
def dumpOptional : Option Text → List Char
  | none => "null".toList
  | some s => Json.dumpText s

/-- The text of the strings that follow the first of a list. -/
def dumpItems : List Text → List Char
  | [] => [']']
  | s :: ss => ',' :: (Json.dumpText s ++ dumpItems ss)

/-- The text of a list of strings. -/
def dumpList : List Text → List Char
  | [] => ['[', ']']
  | s :: ss => '[' :: (Json.dumpText s ++ dumpItems ss)

/-- The text of an entry with a key, before what follows. -/
def dumpEntry (name : String) (value rest : List Char) : List Char :=
  Json.dumpString name.toList ++ ':' :: (value ++ rest)

/-- `scope_key`. -/
def key (scope : TextScope) : List Char :=
  '{' :: dumpEntry "containerId" (dumpOptional scope.containerId)
    (',' :: dumpEntry "query" (Json.dumpText scope.query)
      (',' :: dumpEntry "sort" (Json.dumpText scope.sort)
        (',' :: dumpEntry "types" (dumpList scope.types) ['}'])))

/-- The scope of a request without surrogates. -/
def ofScope (scope : FindScope) : TextScope where
  containerId := scope.containerId.map Text.ofString
  query := Text.ofString scope.query
  sort := Text.ofString scope.sort
  types := scope.types.map Text.ofString

theorem dumps_optionalStr (repr : Json → String) (s : Option String) :
    Json.dumps repr (optionalStr s) = dumpOptional (s.map Text.ofString) := by
  cases s with
  | none => rfl
  | some s => exact (Json.dumpText_ofString s).symm

theorem dumpsItems_str (repr : Json → String) (ss : List String) :
    Json.dumpsItems repr (ss.map .str) = dumpItems (ss.map Text.ofString) := by
  induction ss with
  | nil => rfl
  | cons s ss ih =>
    rw [List.map_cons, List.map_cons, Json.dumpsItems, dumpItems, ih, Json.dumpText_ofString,
      Json.dumps]

theorem dumps_strings (repr : Json → String) (ss : List String) :
    Json.dumps repr (.list (ss.map .str)) = dumpList (ss.map Text.ofString) := by
  cases ss with
  | nil => rfl
  | cons s ss =>
    rw [List.map_cons, List.map_cons, Json.dumps, dumpList, dumpsItems_str,
      Json.dumpText_ofString, Json.dumps]

theorem scopeKey_eq (scope : FindScope) : scopeKey scope = String.ofList (ofScope scope).key := by
  rw [scopeKey, key, ofScope, Json.dumps]
  simp only [Json.dumpsEntries, dumps_optionalStr, dumps_strings, Json.dumps.eq_7, dumpEntry,
    Json.dumpText_ofString]

/-! ## What a key tells -/

/-- The units of the strings of a scope. -/
def units (scope : TextScope) : Option (List ℕ) × List ℕ × List ℕ × List (List ℕ) :=
  (scope.containerId.map Text.units, scope.query.units, scope.sort.units,
    scope.types.map Text.units)

theorem dumpOptional_append_inj {s s' : Option Text} {rest rest' : List Char}
    (h : dumpOptional s ++ rest = dumpOptional s' ++ rest') :
    s.map Text.units = s'.map Text.units ∧ rest = rest' := by
  cases s with
  | none =>
    cases s' with
    | none => exact ⟨rfl, List.append_cancel_left h⟩
    | some s' => cases h
  | some s =>
    cases s' with
    | none => cases h
    | some s' =>
      obtain ⟨hunits, hrest⟩ := Json.dumpText_append_inj h
      exact ⟨congrArg some hunits, hrest⟩

theorem dumpItems_append_inj {ss ss' : List Text} {rest rest' : List Char}
    (h : dumpItems ss ++ rest = dumpItems ss' ++ rest') :
    ss.map Text.units = ss'.map Text.units ∧ rest = rest' := by
  induction ss generalizing ss' with
  | nil =>
    cases ss' with
    | nil => exact ⟨rfl, List.append_cancel_left h⟩
    | cons s' ss' => cases h
  | cons s ss ih =>
    cases ss' with
    | nil => cases h
    | cons s' ss' =>
      simp only [dumpItems, List.cons_append, List.append_assoc, List.cons.injEq, true_and] at h
      obtain ⟨hunits, hitems⟩ := Json.dumpText_append_inj h
      obtain ⟨hmap, hrest⟩ := ih hitems
      rw [List.map_cons, List.map_cons, hunits, hmap]
      exact ⟨rfl, hrest⟩

theorem dumpList_append_inj {ss ss' : List Text} {rest rest' : List Char}
    (h : dumpList ss ++ rest = dumpList ss' ++ rest') :
    ss.map Text.units = ss'.map Text.units ∧ rest = rest' := by
  cases ss with
  | nil =>
    cases ss' with
    | nil => exact ⟨rfl, List.append_cancel_left h⟩
    | cons s' ss' => cases h
  | cons s ss =>
    cases ss' with
    | nil => cases h
    | cons s' ss' =>
      simp only [dumpList, List.cons_append, List.append_assoc, List.cons.injEq, true_and] at h
      obtain ⟨hunits, hitems⟩ := Json.dumpText_append_inj h
      obtain ⟨hmap, hrest⟩ := dumpItems_append_inj hitems
      rw [List.map_cons, List.map_cons, hunits, hmap]
      exact ⟨rfl, hrest⟩

theorem dumpEntry_inj {name : String} {value value' rest rest' : List Char}
    (h : dumpEntry name value rest = dumpEntry name value' rest') :
    value ++ rest = value' ++ rest' :=
  (List.cons.inj (List.append_cancel_left h)).2

/-- The text of a list of strings tells no more than their units. -/
theorem dumpItems_congr {ss ss' : List Text} (h : ss.map Text.units = ss'.map Text.units) :
    dumpItems ss = dumpItems ss' := by
  induction ss generalizing ss' with
  | nil =>
    cases ss' with
    | nil => rfl
    | cons s' ss' => cases h
  | cons s ss ih =>
    cases ss' with
    | nil => cases h
    | cons s' ss' =>
      rw [List.map_cons, List.map_cons, List.cons.injEq] at h
      rw [dumpItems, dumpItems, Json.dumpText, Json.dumpText, h.1, ih h.2]

theorem dumpList_congr {ss ss' : List Text} (h : ss.map Text.units = ss'.map Text.units) :
    dumpList ss = dumpList ss' := by
  have hitems := dumpItems_congr h
  cases ss with
  | nil =>
    cases ss' with
    | nil => rfl
    | cons s' ss' => cases h
  | cons s ss =>
    cases ss' with
    | nil => cases h
    | cons s' ss' =>
      -- A list differs from the items that follow a first one in its first character only.
      rw [dumpItems, dumpItems, List.cons.injEq] at hitems
      rw [dumpList, dumpList, hitems.2]

/-- The key of a scope tells the units of its strings, and nothing else. -/
theorem key_eq_iff {scope scope' : TextScope} : scope.key = scope'.key ↔ scope.units = scope'.units := by
  constructor
  · intro h
    rw [key, key, List.cons.injEq] at h
    -- The fields are written one after the other, so they are read off in that order.
    obtain ⟨hcontainer, h⟩ := dumpOptional_append_inj (dumpEntry_inj h.2)
    obtain ⟨hquery, h⟩ := Json.dumpText_append_inj (dumpEntry_inj (List.cons.inj h).2)
    obtain ⟨hsort, h⟩ := Json.dumpText_append_inj (dumpEntry_inj (List.cons.inj h).2)
    obtain ⟨htypes, -⟩ := dumpList_append_inj (dumpEntry_inj (List.cons.inj h).2)
    rw [units, units, hcontainer, hquery, hsort, htypes]
  · intro h
    simp only [units, Prod.mk.injEq] at h
    obtain ⟨hcontainer, hquery, hsort, htypes⟩ := h
    have hoptional : dumpOptional scope.containerId = dumpOptional scope'.containerId := by
      cases hs : scope.containerId with
      | none =>
        cases hs' : scope'.containerId with
        | none => rfl
        | some s' =>
          rw [hs, hs'] at hcontainer
          cases hcontainer
      | some s =>
        cases hs' : scope'.containerId with
        | none =>
          rw [hs, hs'] at hcontainer
          cases hcontainer
        | some s' =>
          rw [hs, hs'] at hcontainer
          rw [dumpOptional, dumpOptional, Json.dumpText, Json.dumpText, Option.some.inj hcontainer]
    rw [key, key, hoptional, Json.dumpText, Json.dumpText, Json.dumpText, Json.dumpText, hquery,
      hsort, dumpList_congr htypes]

/-- Scopes without surrogates that have the same units are the same. -/
theorem ofScope_units_inj {scope scope' : FindScope}
    (h : (ofScope scope).units = (ofScope scope').units) : scope = scope' := by
  obtain ⟨container, query, sort, types⟩ := scope
  obtain ⟨container', query', sort', types'⟩ := scope'
  simp only [units, ofScope, Prod.mk.injEq, Option.map_map, List.map_map] at h
  have hinj : Function.Injective (Text.units ∘ Text.ofString) := fun _ _ h => Json.units_ofString_inj h
  obtain ⟨hcontainer, hquery, hsort, htypes⟩ := h
  rw [Option.map_injective hinj hcontainer, Json.units_ofString_inj hquery,
    Json.units_ofString_inj hsort, List.map_injective_iff.2 hinj htypes]

end TextScope

/-! ## Bound cursors -/

namespace Continuation

/-- Offsets are written up to the number of digits that Python writes. -/
theorem encode_ok_iff {key : String} {c a : ℤ} (hc : 0 ≤ c) (ha : 0 ≤ a) :
    (∃ text, encode key c a = .ok text) ↔ c < 10 ^ intMaxStrDigits ∧ a < 10 ^ intMaxStrDigits := by
  rw [← isShort_iff hc, ← isShort_iff ha, ← Bool.and_eq_true, encode]
  split_ifs with hshort
  · exact ⟨fun _ => hshort, fun _ => ⟨_, rfl⟩⟩
  · refine ⟨fun h => ?_, fun h => absurd h hshort⟩
    obtain ⟨_, h⟩ := h
    cases h

theorem encode_error {key : String} {c a : ℤ} (h : ¬∃ text, encode key c a = .ok text) :
    encode key c a = .error .valueError := by
  rw [encode] at h ⊢
  split_ifs with hshort
  · exact absurd ⟨_, if_pos hshort⟩ h
  · rfl

/-- A request for a scope with a key refuses a cursor. -/
def refuses (cursor : Continuation) (key : String) : Bool :=
  cursor.scopeKey.truthy && cursor.scopeKey ≠ .str key

/-- A cursor for a scope is refused for another. -/
theorem refuses_iff (c a : ℤ) (issued asked : TextScope) :
    refuses ⟨c, a, .str (String.ofList issued.key)⟩ (String.ofList asked.key) = false ↔
      asked.units = issued.units := by
  have htruthy : (Json.str (String.ofList issued.key)).truthy = true := by
    refine decide_eq_true fun h => ?_
    have hnil := congrArg String.toList h
    rw [String.toList_ofList] at hnil
    cases hnil
  rw [refuses, htruthy, Bool.true_and, decide_eq_false_iff_not, not_not, Json.str.injEq,
    String.ofList_inj, TextScope.key_eq_iff]
  exact eq_comm

end Continuation

theorem find_of_decode {py : Interpreter} {request : FindRequest} {cursor : Continuation} {limit : ℤ}
    (service : ResourceSpaceService) (grants : PreviewGrants)
    (hcursor : Continuation.decode py.depth request.continuation = .ok (some cursor))
    (hlimit : request.pageLimit = .ok limit) :
    find py service grants request =
      .ok (if cursor.refuses (scopeKey request.scope) then .failed 400 "INVALID_REQUEST"
        else answerFind py service grants request.scope limit cursor) := by
  rw [find, hcursor]
  change (do
    let limit ← request.pageLimit
    if cursor.refuses (scopeKey request.scope) then return FindResponse.failed 400 "INVALID_REQUEST"
      else return answerFind py service grants request.scope limit cursor) = _
  rw [hlimit]
  change (if _ then _ else _) = _
  split_ifs <;> rfl

/-- A continuation is handed out for every scope and all offsets that Python writes, and is read
    back as it was. A request goes on from its offsets if the strings of its scope have the same
    units, and is refused otherwise; without surrogates, that is if its scope is the same. -/
theorem continuation_bound (py : Interpreter) (issued : TextScope) {c a : ℤ} (hc : 0 ≤ c)
    (ha : 0 ≤ a) :
    ((∃ text, Continuation.encode (String.ofList issued.key) c a = .ok text) ↔
      c < 10 ^ intMaxStrDigits ∧ a < 10 ^ intMaxStrDigits) ∧
    (∀ text, Continuation.encode (String.ofList issued.key) c a = .ok text →
      Continuation.decode py.depth (.str text) =
        .ok (some ⟨c, a, .str (String.ofList issued.key)⟩) ∧
      ∀ service grants (request : FindRequest) limit, request.continuation = .str text →
        request.pageLimit = .ok limit →
        find py service grants request =
          .ok (if (TextScope.ofScope request.scope).units = issued.units then
            answerFind py service grants request.scope limit
              ⟨c, a, .str (String.ofList issued.key)⟩
            else .failed 400 "INVALID_REQUEST")) ∧
    (∀ asked : TextScope,
      Continuation.refuses ⟨c, a, .str (String.ofList issued.key)⟩ (String.ofList asked.key) = false ↔
        asked.units = issued.units) ∧
    ∀ scope scope' : FindScope,
      (TextScope.ofScope scope).units = (TextScope.ofScope scope').units ↔ scope = scope' := by
  refine ⟨Continuation.encode_ok_iff hc ha, fun text hencode => ?_,
    fun asked => Continuation.refuses_iff c a issued asked,
    fun scope scope' => ⟨TextScope.ofScope_units_inj, fun h => h ▸ rfl⟩⟩
  have hdecode := Continuation.decode_encode py.depth hencode
  refine ⟨hdecode, fun service grants request limit hcontinuation hlimit => ?_⟩
  rw [← hcontinuation] at hdecode
  rw [find_of_decode service grants hdecode hlimit, TextScope.scopeKey_eq]
  have hiff := Continuation.refuses_iff c a issued (TextScope.ofScope request.scope)
  congr 1
  by_cases hunits : (TextScope.ofScope request.scope).units = issued.units
  · rw [hiff.2 hunits, if_pos hunits, if_neg Bool.false_ne_true]
  · rw [if_neg hunits, if_pos (Bool.eq_true_of_not_eq_false fun h => hunits (hiff.1 h))]

namespace Sample

/-- A listing of everything. -/
def everything : FindScope := ⟨none, "", "updated_desc", ["IMAGE", "CONTAINER"]⟩

/-- A page further, the same request goes on, and one for other types is refused. -/
theorem continuation_bound_everything :
    ∃ text, Continuation.encode (scopeKey everything) 3 50 = .ok text ∧
      Continuation.decode interpreter.depth (.str text) =
        .ok (some ⟨3, 50, .str (scopeKey everything)⟩) ∧
      find interpreter (findStep .null (.str text)).service (findStep .null (.str text)).grants
          { (findStep .null (.str text)).request with types := some ["IMAGE"] } =
        .ok (.failed 400 "INVALID_REQUEST") := by
  obtain ⟨hok, hread, -, hsame⟩ := continuation_bound interpreter (TextScope.ofScope everything)
    (by decide : (0 : ℤ) ≤ 3) (by decide : (0 : ℤ) ≤ 50)
  have hdigits : (50 : ℤ) < 10 ^ intMaxStrDigits :=
    lt_of_lt_of_le (by decide : (50 : ℤ) < 10 ^ 2) (pow_le_pow_right₀ (by decide) (by decide))
  obtain ⟨text, hencode⟩ := hok.2 ⟨by omega, hdigits⟩
  obtain ⟨hdecode, hfind⟩ := hread text hencode
  rw [TextScope.scopeKey_eq]
  refine ⟨text, hencode, hdecode, ?_⟩
  rw [hfind _ _ _ 50 rfl rfl, if_neg]
  rw [hsame]
  have hother : ["IMAGE"] ≠ everything.types := by decide
  exact fun h => hother (congrArg FindScope.types h)

/-- A search for one character, spelt as a surrogate pair or not. -/
def search (query : Text) : TextScope := ⟨none, query, [], []⟩

/-- A search for a character has the key of the search for its two surrogates, so that the cursor
    of one is not refused to the other; and no offset beyond the digits that Python writes is
    handed out. -/
theorem pair_shares_key :
    search [0x1f600] ≠ search [0xd83d, 0xde00] ∧
      (search [0x1f600]).key = (search [0xd83d, 0xde00]).key ∧
      Continuation.refuses ⟨0, 1, .str (String.ofList (search [0x1f600]).key)⟩
        (String.ofList (search [0xd83d, 0xde00]).key) = false ∧
      Continuation.encode (scopeKey everything) 0 (10 ^ intMaxStrDigits) = .error .valueError := by
  have hunits : (search [0x1f600]).units = (search [0xd83d, 0xde00]).units := by decide
  refine ⟨by decide, TextScope.key_eq_iff.2 hunits,
    (Continuation.refuses_iff 0 1 _ _).2 hunits.symm, Continuation.encode_error ?_⟩
  rw [Continuation.encode_ok_iff (le_refl 0) (by positivity)]
  exact fun h => absurd h.2 (lt_irrefl _)

end Sample

end Broker
