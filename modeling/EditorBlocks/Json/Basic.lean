/-!
# JSON values

The documents of the library.  A whole number keeps its integer nature and
every other number is a 64-bit float, so `1` and `1.0` are different values.
An object is the list of its members; `Object.insert` keeps them in ascending
order of their keys and replaces the value of a key that is there.
-/

namespace EditorBlocks

/-- A number of a document: an integer of at most 64 bits, or a float. -/
inductive Number where
  | int (n : Int)
  | float (x : Float)
deriving DecidableEq, Repr

namespace Number

def toFloat : Number → Float
  | .int n => Float.ofInt n
  | .float x => x

end Number

inductive Json where
  | null
  | bool (b : Bool)
  | number (n : Number)
  | string (s : String)
  | list (items : List Json)
  | object (members : List (String × Json))
deriving Repr, Inhabited

namespace Json

mutual

def decEq : (a b : Json) → Decidable (a = b)
  | .null, .null => .isTrue rfl
  | .null, .bool _ | .null, .number _ | .null, .string _ | .null, .list _ | .null, .object _ =>
    .isFalse nofun
  | .bool a, .bool b =>
    if h : a = b then .isTrue (h ▸ rfl) else .isFalse fun e => h (by injection e)
  | .bool _, .null | .bool _, .number _ | .bool _, .string _ | .bool _, .list _
  | .bool _, .object _ => .isFalse nofun
  | .number a, .number b =>
    if h : a = b then .isTrue (h ▸ rfl) else .isFalse fun e => h (by injection e)
  | .number _, .null | .number _, .bool _ | .number _, .string _ | .number _, .list _
  | .number _, .object _ => .isFalse nofun
  | .string a, .string b =>
    if h : a = b then .isTrue (h ▸ rfl) else .isFalse fun e => h (by injection e)
  | .string _, .null | .string _, .bool _ | .string _, .number _ | .string _, .list _
  | .string _, .object _ => .isFalse nofun
  | .list a, .list b =>
    match decEqList a b with
    | .isTrue h => .isTrue (h ▸ rfl)
    | .isFalse h => .isFalse fun e => h (by injection e)
  | .list _, .null | .list _, .bool _ | .list _, .number _ | .list _, .string _
  | .list _, .object _ => .isFalse nofun
  | .object a, .object b =>
    match decEqMembers a b with
    | .isTrue h => .isTrue (h ▸ rfl)
    | .isFalse h => .isFalse fun e => h (by injection e)
  | .object _, .null | .object _, .bool _ | .object _, .number _ | .object _, .string _
  | .object _, .list _ => .isFalse nofun

def decEqList : (a b : List Json) → Decidable (a = b)
  | [], [] => .isTrue rfl
  | [], _ :: _ | _ :: _, [] => .isFalse nofun
  | x :: xs, y :: ys =>
    match decEq x y, decEqList xs ys with
    | .isTrue h, .isTrue t => .isTrue (h ▸ t ▸ rfl)
    | .isFalse h, _ => .isFalse fun e => h (by injection e)
    | _, .isFalse t => .isFalse fun e => t (by injection e)

def decEqMembers : (a b : List (String × Json)) → Decidable (a = b)
  | [], [] => .isTrue rfl
  | [], _ :: _ | _ :: _, [] => .isFalse nofun
  | (k, x) :: xs, (l, y) :: ys =>
    if hk : k = l then
      match decEq x y, decEqMembers xs ys with
      | .isTrue h, .isTrue t => .isTrue (hk ▸ h ▸ t ▸ rfl)
      | .isFalse h, _ => .isFalse fun e => h (by injection e with e _; injection e)
      | _, .isFalse t => .isFalse fun e => t (by injection e)
    else .isFalse fun e => hk (by injection e with e _; injection e)

end

instance : DecidableEq Json := decEq

end Json

/-- The members of an object. -/
abbrev Object := List (String × Json)

namespace Object

def get? (o : Object) (key : String) : Option Json := o.lookup key

def has (o : Object) (key : String) : Bool := (o.get? key).isSome

def keys (o : Object) : List String := o.map Prod.fst

def insert (key : String) (value : Json) : Object → Object
  | [] => [(key, value)]
  | (k, v) :: rest =>
    if key < k then (key, value) :: (k, v) :: rest
    else if key = k then (key, value) :: rest
    else (k, v) :: insert key value rest

/-- The members in order of their keys; a repeated key keeps its last value. -/
def ofList (members : List (String × Json)) : Object :=
  members.foldl (fun o m => insert m.1 m.2 o) []

@[simp]
theorem get?_nil (key : String) : get? [] key = none := rfl

theorem get?_cons (key : String) (m : String × Json) (o : Object) :
    get? (m :: o) key = if key = m.1 then some m.2 else o.get? key := by
  obtain ⟨k, v⟩ := m
  by_cases h : key = k
  · simp [get?, h]
  · simp [get?, List.lookup_cons, h, beq_eq_false_iff_ne.2 h]

theorem get?_insert (key : String) (value : Json) (o : Object) (other : String) :
    (o.insert key value).get? other = if other = key then some value else o.get? other := by
  induction o with
  | nil => simp [insert, get?_cons]
  | cons m rest ih =>
    obtain ⟨k, v⟩ := m
    unfold insert
    split
    · simp [get?_cons]
    · split
      · next hk =>
        subst hk
        by_cases h : other = key <;> simp [get?_cons, h]
      · next hk =>
        by_cases h : other = k
        · subst h
          simp [get?_cons, Ne.symm hk]
        · simp [get?_cons, h, ih]

/-- The keys ascend, so none is repeated. -/
def Ascending (o : Object) : Prop := o.keys.Pairwise (· < ·)

theorem mem_keys_insert {key other : String} {value : Json} {o : Object} :
    other ∈ (o.insert key value).keys ↔ other = key ∨ other ∈ o.keys := by
  induction o with
  | nil => simp [insert, keys]
  | cons m rest ih =>
    obtain ⟨k, v⟩ := m
    unfold insert
    split
    · simp [keys]
    · split
      · next hk => simp [keys, hk]
      · simp only [keys, List.map_cons, List.mem_cons] at ih ⊢
        rw [ih]
        exact or_left_comm

theorem Ascending.insert {o : Object} (h : o.Ascending) (key : String) (value : Json) :
    (o.insert key value).Ascending := by
  induction o with
  | nil => simp [Ascending, Object.insert, keys]
  | cons m rest ih =>
    obtain ⟨k, v⟩ := m
    obtain ⟨hk, hrest⟩ := List.pairwise_cons.1 h
    unfold Object.insert
    split
    · next hlt =>
      refine List.pairwise_cons.2 ⟨fun other hother => ?_, h⟩
      rcases List.mem_cons.1 hother with rfl | hother
      · exact hlt
      · exact String.lt_trans hlt (hk other hother)
    · split
      · next heq => subst heq; exact List.pairwise_cons.2 ⟨hk, hrest⟩
      · next hnot hne =>
        refine List.pairwise_cons.2 ⟨fun other hother => ?_, ih hrest⟩
        rcases mem_keys_insert.1 hother with rfl | hother
        · exact Std.lt_of_le_of_ne (Std.not_lt.1 hnot) (Ne.symm hne)
        · exact hk other hother

theorem ascending_ofList (members : List (String × Json)) : (ofList members).Ascending := by
  have grown : ∀ (ms : List (String × Json)) (o : Object), o.Ascending →
      (ms.foldl (fun o m => o.insert m.1 m.2) o).Ascending := by
    intro ms
    induction ms with
    | nil => exact fun _ h => h
    | cons m rest ih => exact fun o h => ih _ (h.insert m.1 m.2)
  exact grown members [] .nil

end Object

namespace Json

/-- The kind of a value as messages name it. -/
def describe : Json → String
  | .null => "null"
  | .bool _ => "a boolean"
  | .number _ => "a number"
  | .string _ => "a string"
  | .list _ => "a list"
  | .object _ => "an object"

def isString : Json → Bool
  | .string _ => true
  | _ => false

def isNumber : Json → Bool
  | .number _ => true
  | _ => false

def isBool : Json → Bool
  | .bool _ => true
  | _ => false

def isList : Json → Bool
  | .list _ => true
  | _ => false

def string? : Json → Option String
  | .string s => some s
  | _ => none

def bool? : Json → Option Bool
  | .bool b => some b
  | _ => none

def number? : Json → Option Number
  | .number n => some n
  | _ => none

def float? (v : Json) : Option Float := v.number?.map Number.toFloat

def list? : Json → Option (List Json)
  | .list items => some items
  | _ => none

def object? : Json → Option Object
  | .object members => some members
  | _ => none

/-- A list of strings, and of nothing else. -/
def strings? (v : Json) : Option (List String) :=
  v.list?.bind fun items => items.mapM string?

def ofFloat (x : Float) : Json := .number (.float x)

def ofNat (n : Nat) : Json := .number (.int n)

def ofStrings (names : List String) : Json := .list (names.map .string)

/-- An object from members in any order. -/
def ofMembers (members : List (String × Json)) : Json := .object (Object.ofList members)

end Json

end EditorBlocks
