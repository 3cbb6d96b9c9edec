import Mathlib.Algebra.Group.Int.Defs
import Mathlib.Data.Rat.Defs
import WebGameServer.Library.Outcome

namespace WebGameServer
set_option autoImplicit true

/-- The values of `nlohmann::json`. A `number_float` is a finite double, given by its value. -/
inductive Json where
  | null
  | boolean (b : Bool)
  | numberUnsigned (n : UInt64)
  | numberInteger (n : Int64)
  | numberFloat (q : ℚ)
  | string (s : String)
  | array (a : List Json)
  | object (fields : List (String × Json))

/-- The exceptions of the library, with their ids. -/
inductive JsonException where
  | typeError (id : Nat)
  | outOfRange (id : Nat)
  deriving DecidableEq

/-- What the conversions between text and values compute, and what becomes of a double whose
integral part is out of the range of the type that it is converted to. -/
structure JsonLibrary where
  -- `parse(text, nullptr, false)`, with `none` for a discarded value.
  parse : String → Option Json
  dump : Json → String
  overflow : ℚ → UInt32

namespace Json

/-- `operator[]` with a key on a constant value. It asserts that an object has the key. -/
def key (j : Json) (k : String) : Outcome JsonException Json :=
  match j with
  | .object fields =>
    match fields.lookup k with
    | some v => .value v
    | none => .undefined
  | _ => .thrown (.typeError 305)

/-- `operator[]` with an index on a constant value. It does not check the size of an array. -/
def index (j : Json) (i : Nat) : Outcome JsonException Json :=
  match j with
  | .array a =>
    match a[i]? with
    | some v => .value v
    | none => .undefined
  | _ => .thrown (.typeError 305)

/-- `at` with a key. -/
def atKey (j : Json) (k : String) : Outcome JsonException Json :=
  match j with
  | .object fields =>
    match fields.lookup k with
    | some v => .value v
    | none => .thrown (.outOfRange 403)
  | _ => .thrown (.typeError 304)

/-- `operator[]` with a key and the assignment of a value. -/
def set (j : Json) (k : String) (v : Json) : Outcome JsonException Json :=
  match j with
  | .object fields => .value (.object ((k, v) :: fields.filter fun f => f.1 ≠ k))
  | .null => .value (.object [(k, v)])
  | _ => .thrown (.typeError 305)

/-- `get<bool>`. -/
def getBool (j : Json) : Outcome JsonException Bool :=
  match j with
  | .boolean b => .value b
  | _ => .thrown (.typeError 302)

/-- `static_cast<unsigned int>` of a double. -/
def truncate (lib : JsonLibrary) (q : ℚ) : UInt32 :=
  let n := q.num.tdiv q.den
  if 0 ≤ n ∧ n < 2 ^ 32 then .ofNat n.toNat else lib.overflow q

/-- `get<unsigned int>`. -/
def getUnsigned (lib : JsonLibrary) (j : Json) : Outcome JsonException UInt32 :=
  match j with
  | .numberUnsigned n => .value n.toUInt32
  | .numberInteger n => .value n.toUInt64.toUInt32
  | .numberFloat q => .value (truncate lib q)
  | .boolean b => .value (if b then 1 else 0)
  | _ => .thrown (.typeError 302)

/-- `get<int>`. -/
def getInt (lib : JsonLibrary) (j : Json) : Outcome JsonException Int32 :=
  match j with
  | .numberFloat q =>
    let n := q.num.tdiv q.den
    .value (if -2 ^ 31 ≤ n ∧ n < 2 ^ 31 then .ofInt n else (lib.overflow q).toInt32)
  | j => do return (← j.getUnsigned lib).toInt32

/-- An array of integers, as an initializer list or a vector of them is converted. -/
def ofInts (l : List Int) : Json := .array (l.map fun n => .numberInteger (.ofInt n))

mutual

/-- `dump` of values without fractions and without characters that are escaped. -/
def render : Json → String
  | .null => "null"
  | .boolean b => toString b
  | .numberUnsigned n => toString n
  | .numberInteger n => toString n
  | .numberFloat q => toString q
  | .string s => "\"" ++ s ++ "\""
  | .array a => "[" ++ ",".intercalate (renderArray a) ++ "]"
  | .object fields => "\x7b" ++ ",".intercalate (renderFields fields) ++ "\x7d"

def renderArray : List Json → List String
  | [] => []
  | v :: a => v.render :: renderArray a

def renderFields : List (String × Json) → List String
  | [] => []
  | (k, v) :: fields => ("\"" ++ k ++ "\":" ++ v.render) :: renderFields fields

end

end Json

/-- A library that knows an empty object and the move to the first cell. -/
def sampleLibrary : JsonLibrary where
  parse text :=
    if text = "\x7b\x7d" then some (.object [])
    else if text = "\x7b\"move\":[0,0]\x7d" then
      some (.object [("move", .array [.numberUnsigned 0, .numberUnsigned 0])])
    else none
  dump := Json.render
  overflow _ := 0

def tokenMember : List Char → Option (List Char)
  | [] => none
  | c :: text =>
    if "\"token\":\"".toList <+: c :: text then some ((text.drop 8).takeWhile (· ≠ '"'))
    else tokenMember text

def sampleTokenIn (text : String) : Option String := (tokenMember text.toList).map .ofList

theorem tokenMember_marker {token : List Char} (rest : List Char) (hq : '"' ∉ token) :
    tokenMember ("\"token\":\"".toList ++ (token ++ '"' :: rest)) = some token := by
  have htake : (token ++ '"' :: rest).takeWhile (· ≠ '"') = token := by
    rw [List.takeWhile_append_of_pos, List.takeWhile_cons_of_neg (by simp), List.append_nil]
    intro c hc
    exact decide_eq_true fun he => hq (he ▸ hc)
  exact (if_pos (List.prefix_append _ _)).trans (congrArg some htake)

theorem render_token (token : String) (fields : List (String × Json)) :
    ∃ rest, (Json.object (("token", .string token) :: fields)).render.toList =
      '\x7b' :: ("\"token\":\"".toList ++ (token.toList ++ '"' :: rest)) := by
  simp only [Json.render, Json.renderFields]
  cases Json.renderFields fields with
  | nil => exact ⟨['\x7d'], by simp [String.intercalate_singleton]⟩
  | cons f fs =>
    exact ⟨',' :: ((",".intercalate (f :: fs)).toList ++ ['\x7d']), by
      simp [String.intercalate_cons_cons]⟩

theorem sampleTokenIn_set {data temp : Json} {token : String}
    (h : data.set "token" (.string token) = .value temp) (hq : '"' ∉ token.toList) :
    sampleTokenIn (sampleLibrary.dump temp) = some token := by
  have hfirst (fields : List (String × Json)) :
      sampleTokenIn (sampleLibrary.dump (.object (("token", .string token) :: fields))) =
        some token := by
    obtain ⟨rest, hrest⟩ := render_token token fields
    rw [sampleTokenIn, sampleLibrary, hrest]
    apply (congrArg _ (tokenMember_marker rest hq)).trans
    rw [Option.map_some, String.ofList_toList]
  cases data with
  | null | object fields =>
    cases h
    exact hfirst _
  | _ => cases h

end WebGameServer
