/-
# Values of the dynamic layer

Results travel between the engines and the endpoints as dictionaries. A reader
that expects another shape raises an exception: `get` of a text, iterating over
a number. Dictionaries are lists of entries with text keys in insertion order;
numbers are exact.
-/

import Goveling.Python.Builtins

namespace Goveling.Python

/-- The values that are passed around as data. -/
inductive PyVal
  | none
  | bool (value : Bool)
  | int (value : ℤ)
  | float (value : ℚ)
  | str (value : String)
  | list (items : List PyVal)
  | dict (entries : List (String × PyVal))

/-- A dictionary with text keys. -/
abbrev PyDict := List (String × PyVal)

/-- `str` of an exception. -/
def PyError.text : PyError → String
  | .valueError message | .zeroDivisionError message | .indexError message
  | .typeError message | .attributeError message | .exception message => message
  | .keyError key => "'" ++ key ++ "'"
  | .nameError name => "name '" ++ name ++ "' is not defined"
  | .unboundLocalError name =>
      "cannot access local variable '" ++ name ++ "' where it is not associated with a value"

/-- `type(e).__name__`. -/
def PyError.typeName : PyError → String
  | .valueError _ => "ValueError"
  | .zeroDivisionError _ => "ZeroDivisionError"
  | .keyError _ => "KeyError"
  | .indexError _ => "IndexError"
  | .typeError _ => "TypeError"
  | .attributeError _ => "AttributeError"
  | .nameError _ => "NameError"
  | .unboundLocalError _ => "UnboundLocalError"
  | .exception _ => "Exception"

/-- A list of whole numbers. -/
def PyVal.ints (values : List ℕ) : PyVal := .list (values.map fun value : ℕ => .int value)

/-! ## Dictionaries -/

/-- `entries.get(key, default)`. -/
def PyDict.get (entries : PyDict) (key : String) (default : PyVal) : PyVal :=
  (entries.lookup key).getD default

/-- `entries[key]`. -/
def PyDict.item (entries : PyDict) (key : String) : Except PyError PyVal :=
  match entries.lookup key with
  | some value => .ok value
  | none => .error (.keyError key)

/-- `key in entries`. -/
def PyDict.has (entries : PyDict) (key : String) : Bool :=
  (entries.lookup key).isSome

/-- `entries[key] = value`: an old entry keeps its place. -/
def PyDict.set (entries : PyDict) (key : String) (value : PyVal) : PyDict :=
  if entries.has key then
    entries.map fun entry => if entry.1 = key then (key, value) else entry
  else entries ++ [(key, value)]

/-- `list(entries.keys())`. -/
def PyDict.keyList (entries : PyDict) : PyVal :=
  .list (entries.map fun entry => .str entry.1)

@[simp]
theorem PyDict.get_nil (key : String) (default : PyVal) : PyDict.get [] key default = default :=
  rfl

theorem PyDict.get_cons (entry : String × PyVal) (rest : PyDict) (key : String)
    (default : PyVal) :
    PyDict.get (entry :: rest) key default =
      if key = entry.1 then entry.2 else PyDict.get rest key default := by
  unfold PyDict.get
  rw [List.lookup_cons]
  by_cases hkey : key = entry.1
  · simp [hkey]
  · simp [hkey, beq_eq_false_iff_ne.mpr hkey]

/-- A value that a key has is found with every default. -/
theorem PyDict.get_eq_of_get_none {entries : PyDict} {key : String} {value : PyVal}
    (hvalue : PyDict.get entries key .none = value) (hsome : value ≠ .none) (default : PyVal) :
    PyDict.get entries key default = value := by
  unfold PyDict.get at hvalue ⊢
  cases hlookup : entries.lookup key with
  | none =>
      rw [hlookup] at hvalue
      exact absurd hvalue.symm hsome
  | some found =>
      rw [hlookup] at hvalue
      exact hvalue

@[simp]
theorem PyDict.has_nil (key : String) : PyDict.has [] key = false := rfl

theorem PyDict.has_cons (entry : String × PyVal) (rest : PyDict) (key : String) :
    PyDict.has (entry :: rest) key = (key = entry.1 || PyDict.has rest key) := by
  unfold PyDict.has
  rw [List.lookup_cons]
  by_cases hkey : key = entry.1
  · simp [hkey]
  · simp [hkey, beq_eq_false_iff_ne.mpr hkey]

/-- Setting a key leaves the others. -/
theorem PyDict.lookup_set_of_ne {entries : PyDict} {key other : String} {value : PyVal}
    (hne : other ≠ key) : (entries.set key value).lookup other = entries.lookup other := by
  have hreplaced : ∀ entries : PyDict,
      (entries.map fun entry => if entry.1 = key then (key, value) else entry).lookup other =
        entries.lookup other := by
    intro entries
    induction entries with
    | nil => rfl
    | cons entry rest ih =>
        rw [List.map_cons, List.lookup_cons, List.lookup_cons, ih]
        by_cases hkey : entry.1 = key
        · simp [hkey, beq_eq_false_iff_ne.mpr hne]
        · simp [hkey]
  unfold PyDict.set
  split
  · exact hreplaced entries
  · induction entries with
    | nil => simp [List.lookup_cons, beq_eq_false_iff_ne.mpr hne]
    | cons entry rest ih =>
        rename_i hmissing
        have hrest : ¬ PyDict.has rest key = true := by
          intro hfound
          simp [PyDict.has_cons, hfound] at hmissing
        rw [List.cons_append, List.lookup_cons, List.lookup_cons, ih hrest]

/-- A key that was set has its new value. -/
theorem PyDict.lookup_set_self (entries : PyDict) (key : String) (value : PyVal) :
    (entries.set key value).lookup key = some value := by
  unfold PyDict.set
  induction entries with
  | nil => simp
  | cons entry rest ih =>
      rw [PyDict.has_cons]
      by_cases hkey : key = entry.1
      · simp [← hkey]
      · have hne : ¬ entry.1 = key := fun heq => hkey heq.symm
        simp only [hkey, decide_false, Bool.false_or, List.map_cons, if_neg hne, List.cons_append]
        rw [apply_ite (List.lookup key), List.lookup_cons, List.lookup_cons,
          beq_eq_false_iff_ne.mpr hkey, ← apply_ite (List.lookup key)]
        exact ih

/-- Every entry of a dictionary under a key has one value, and there is such an entry. -/
def PyDict.Settled (entries : PyDict) (key : String) (value : PyVal) : Prop :=
  entries.has key = true ∧ ∀ entry ∈ entries, entry.1 = key → entry.2 = value

theorem PyDict.has_set_self (entries : PyDict) (key : String) (value : PyVal) :
    (entries.set key value).has key = true := by
  rw [PyDict.has, PyDict.lookup_set_self]
  rfl

theorem PyDict.mem_set {entries : PyDict} {key : String} {value : PyVal}
    {entry : String × PyVal} (hmem : entry ∈ entries.set key value) :
    entry = (key, value) ∨ entry.1 ≠ key ∧ entry ∈ entries := by
  unfold PyDict.set at hmem
  split at hmem
  · obtain ⟨old, hold, rfl⟩ := List.mem_map.mp hmem
    by_cases hkey : old.1 = key
    · exact .inl (if_pos hkey)
    · rw [if_neg hkey]
      exact .inr ⟨hkey, hold⟩
  · rename_i hmissing
    rcases List.mem_append.mp hmem with hold | hnew
    · refine .inr ⟨?_, hold⟩
      rintro rfl
      apply hmissing
      rw [PyDict.has, List.lookup_isSome_iff]
      exact ⟨entry, hold, BEq.rfl⟩
    · exact .inl (List.mem_singleton.mp hnew)

theorem PyDict.settled_set (entries : PyDict) (key : String) (value : PyVal) :
    (entries.set key value).Settled key value := by
  refine ⟨PyDict.has_set_self entries key value, ?_⟩
  intro entry hmem hkey
  rcases PyDict.mem_set hmem with rfl | ⟨hother, -⟩
  · rfl
  · exact absurd hkey hother

theorem PyDict.Settled.set_of_ne {entries : PyDict} {key other : String} {value : PyVal}
    (hsettled : entries.Settled key value) (hne : key ≠ other) (new : PyVal) :
    (entries.set other new).Settled key value := by
  constructor
  · rw [PyDict.has, PyDict.lookup_set_of_ne hne]
    exact hsettled.1
  · intro entry hmem hkey
    rcases PyDict.mem_set hmem with rfl | ⟨-, hold⟩
    · exact absurd hkey hne.symm
    · exact hsettled.2 entry hold hkey

/-- A key that is settled can be set again. -/
theorem PyDict.Settled.set_eq {entries : PyDict} {key : String} {value : PyVal}
    (hsettled : entries.Settled key value) : entries.set key value = entries := by
  rw [PyDict.set, if_pos hsettled.1]
  conv_rhs => rw [← List.map_id entries]
  apply List.map_congr_left
  intro entry hmem
  by_cases hkey : entry.1 = key
  · rw [if_pos hkey, ← hsettled.2 entry hmem hkey, ← hkey]
    rfl
  · rw [if_neg hkey]
    rfl

/-- In a dictionary each key has its value. -/
theorem PyDict.lookup_of_mem {entries : PyDict} (hnodup : (entries.map Prod.fst).Nodup)
    {entry : String × PyVal} (hmem : entry ∈ entries) :
    entries.lookup entry.1 = some entry.2 := by
  induction entries with
  | nil => cases hmem
  | cons first rest ih =>
      rw [List.map_cons, List.nodup_cons] at hnodup
      rw [List.lookup_cons]
      obtain rfl | hrest := List.mem_cons.mp hmem
      · simp
      · have hne : entry.1 ≠ first.1 := fun heq =>
          hnodup.1 (heq ▸ List.mem_map_of_mem (f := Prod.fst) hrest)
        rw [beq_eq_false_iff_ne.mpr hne]
        exact ih hnodup.2 hrest

/-- Reading a dictionary under all its keys gives its values. -/
theorem PyDict.mapM_item_keys {entries : PyDict} (hnodup : (entries.map Prod.fst).Nodup) :
    (entries.map Prod.fst).mapM (PyDict.item entries) = .ok (entries.map Prod.snd) := by
  suffices hpart : ∀ part : PyDict, (∀ entry ∈ part, entries.lookup entry.1 = some entry.2) →
      (part.map Prod.fst).mapM (PyDict.item entries) = .ok (part.map Prod.snd) from
    hpart entries fun entry hmem => PyDict.lookup_of_mem hnodup hmem
  intro part hfound
  induction part with
  | nil => rfl
  | cons entry rest ih =>
      rw [List.forall_mem_cons] at hfound
      have hitem : PyDict.item entries entry.1 = .ok entry.2 := by
        simp only [PyDict.item, hfound.1]
      rw [List.map_cons, List.mapM_cons, hitem, ih hfound.2]
      rfl

/-! ## Values of any type -/

namespace PyVal

/-- The name of the type of a value, as error messages give it. -/
def typeName : PyVal → String
  | .none => "NoneType"
  | .bool _ => "bool"
  | .int _ => "int"
  | .float _ => "float"
  | .str _ => "str"
  | .list _ => "list"
  | .dict _ => "dict"

/-- The truth value of a value. -/
def truthy : PyVal → Bool
  | .none => false
  | .bool value => value
  | .int value => value ≠ 0
  | .float value => value ≠ 0
  | .str value => value ≠ ""
  | .list items => !items.isEmpty
  | .dict entries => !entries.isEmpty

/-- `first or second`. -/
def orElse (first second : PyVal) : PyVal := if first.truthy then first else second

/-- The dictionary whose `get` is called. -/
def getter : PyVal → Except PyError PyDict
  | .dict entries => .ok entries
  | other => .error (.attributeError ("'" ++ other.typeName ++ "' object has no attribute 'get'"))

/-- `value.get(key, default)`. -/
def get (value : PyVal) (key : String) (default : PyVal) : Except PyError PyVal :=
  value.getter.map fun entries => PyDict.get entries key default

/-- The items of `for item in value`. -/
def iterate : PyVal → Except PyError (List PyVal)
  | .list items => .ok items
  | .dict entries => .ok (entries.map fun entry => .str entry.1)
  | .str value => .ok (value.toList.map fun c => .str c.toString)
  | other => .error (.typeError ("'" ++ other.typeName ++ "' object is not iterable"))

/-- `len(value)`. -/
def len : PyVal → Except PyError ℕ
  | .list items => .ok items.length
  | .dict entries => .ok entries.length
  | .str value => .ok value.length
  | other => .error (.typeError ("object of type '" ++ other.typeName ++ "' has no len()"))

/-- `value[key]` for a text key. -/
def item (value : PyVal) (key : String) : Except PyError PyVal :=
  match value with
  | .dict entries => PyDict.item entries key
  | .list _ => .error (.typeError "list indices must be integers or slices, not str")
  | .str _ => .error (.typeError "string indices must be integers, not 'str'")
  | other => .error (.typeError ("'" ++ other.typeName ++ "' object is not subscriptable"))

/-- `value[key] = new` for a text key. -/
def setItem (value : PyVal) (key : String) (new : PyVal) : Except PyError PyVal :=
  match value with
  | .dict entries => .ok (.dict (PyDict.set entries key new))
  | .list _ => .error (.typeError "list indices must be integers or slices, not str")
  | other => .error (.typeError
      ("'" ++ other.typeName ++ "' object does not support item assignment"))

/-- `value.copy()`. -/
def copy : PyVal → Except PyError PyVal
  | .dict entries => .ok (.dict entries)
  | .list items => .ok (.list items)
  | other => .error (.attributeError
      ("'" ++ other.typeName ++ "' object has no attribute 'copy'"))

/-- `key in value` for a text key. -/
def contains (value : PyVal) (key : String) : Except PyError Bool :=
  match value with
  | .dict entries => .ok (PyDict.has entries key)
  | .list items => .ok (items.any fun item =>
      match item with
      | .str text => text = key
      | _ => false)
  | .str text => .ok (textIn key text)
  | other => .error (.typeError ("argument of type '" ++ other.typeName ++ "' is not iterable"))

/-- `value[index]` for an index below the length. -/
def itemAt (value : PyVal) (index : ℕ) : Except PyError PyVal :=
  match value with
  | .list items =>
      match items[index]? with
      | some item => .ok item
      | Option.none => .error (.indexError "list index out of range")
  | .str text =>
      match text.toList[index]? with
      | some c => .ok (.str c.toString)
      | Option.none => .error (.indexError "string index out of range")
  | .dict _ => .error (.keyError (toString index))
  | other => .error (.typeError ("'" ++ other.typeName ++ "' object is not subscriptable"))

/-- The number that arithmetic and comparisons see. -/
def number? : PyVal → Option ℚ
  | .bool value => some (if value then 1 else 0)
  | .int value => some value
  | .float value => some value
  | _ => Option.none

/-- The whole number behind an integer or a truth value. -/
def whole? : PyVal → Option ℤ
  | .bool value => some (if value then 1 else 0)
  | .int value => some value
  | _ => Option.none

/-- `first + second` for numbers: a sum of integers is an integer. -/
def plus (first second : PyVal) : Except PyError PyVal :=
  match first.whole?, second.whole?, first.number?, second.number? with
  | some a, some b, _, _ => .ok (.int (a + b))
  | _, _, some a, some b => .ok (.float (a + b))
  | _, _, _, _ => .error (.typeError
      ("unsupported operand type(s) for +: '" ++ first.typeName ++ "' and '" ++
        second.typeName ++ "'"))

/-- `first - second`. -/
def minus (first second : PyVal) : Except PyError ℚ :=
  match first.number?, second.number? with
  | some a, some b => .ok (a - b)
  | _, _ => .error (.typeError
      ("unsupported operand type(s) for -: '" ++ first.typeName ++ "' and '" ++
        second.typeName ++ "'"))

/-- `sum(values)`. -/
def sum (values : List PyVal) : Except PyError PyVal := values.foldlM plus (.int 0)

/-- `hash(value)` is defined. -/
def hashable : PyVal → Bool
  | .list _ | .dict _ => false
  | _ => true

/-- `value == text`. -/
def isText (value : PyVal) (text : String) : Bool :=
  match value with
  | .str content => content = text
  | _ => false

/-- `value > bound`. -/
def greaterThan (value : PyVal) (bound : ℚ) (boundType : String) : Except PyError Bool :=
  match value.number? with
  | some number => .ok (bound < number)
  | Option.none => .error (.typeError
      ("'>' not supported between instances of '" ++ value.typeName ++ "' and '" ++
        boundType ++ "'"))

/-- `value < bound`. -/
def lessThan (value : PyVal) (bound : ℚ) (boundType : String) : Except PyError Bool :=
  match value.number? with
  | some number => .ok (number < bound)
  | Option.none => .error (.typeError
      ("'<' not supported between instances of '" ++ value.typeName ++ "' and '" ++
        boundType ++ "'"))

/-- The number that a function of `math` takes. -/
def real (value : PyVal) : Except PyError ℚ :=
  match value.number? with
  | some number => .ok number
  | Option.none => .error (.typeError ("must be real number, not " ++ value.typeName))

/-- The format `:02d`. -/
def formatTwoDigits : PyVal → Except PyError String
  | .int value => .ok (twoDigits value)
  | .bool value => .ok (twoDigits (if value then 1 else 0))
  | .float _ => .error (.valueError "Unknown format code 'd' for object of type 'float'")
  | .str _ => .error (.valueError "Unknown format code 'd' for object of type 'str'")
  | other => .error (.typeError
      ("unsupported format string passed to " ++ other.typeName ++ ".__format__"))

/-- The format `:.{digits}f`. -/
def formatFixed (digits : ℕ) (value : PyVal) : Except PyError String :=
  match value.number?, value with
  | some number, _ => .ok (fixedText digits number)
  | Option.none, .str _ => .error (.valueError "Unknown format code 'f' for object of type 'str'")
  | Option.none, other => .error (.typeError
      ("unsupported format string passed to " ++ other.typeName ++ ".__format__"))

/-- `value / divisor` for a positive whole divisor. -/
def dividedBy (value : PyVal) (divisor : ℕ) : Except PyError PyVal :=
  match value.number? with
  | some number => .ok (.float (number / divisor))
  | Option.none => .error (.typeError
      ("unsupported operand type(s) for /: '" ++ value.typeName ++ "' and 'int'"))

theorem isText_iff {value : PyVal} {text : String} :
    value.isText text = true ↔ value = .str text := by
  cases value <;> simp [isText]

theorem number?_eq_of_real {value : PyVal} {number : ℚ} (hreal : value.real = .ok number) :
    value.number? = some number := by
  unfold PyVal.real at hreal
  split at hreal
  · rename_i found hfound
    cases hreal
    exact hfound
  · cases hreal

@[simp]
theorem getter_dict (entries : PyDict) : getter (.dict entries) = .ok entries := rfl

@[simp]
theorem get_dict (entries : PyDict) (key : String) (default : PyVal) :
    get (.dict entries) key default = .ok (PyDict.get entries key default) := rfl

@[simp]
theorem iterate_list (items : List PyVal) : iterate (.list items) = .ok items := rfl

@[simp]
theorem len_list (items : List PyVal) : len (.list items) = .ok items.length := rfl

end PyVal

/-- The number under a key of a dictionary. -/
def PyDict.number? (entries : PyDict) (key : String) : Option ℚ :=
  (entries.lookup key).bind PyVal.number?

/-! ## Comparisons of values -/

/-- The comparisons `<` and `>`. -/
inductive Comparison
  | less | greater

/-- The sign of a comparison. -/
def Comparison.text : Comparison → String
  | .less => "<"
  | .greater => ">"

/-- The comparison of values of one type. -/
def Comparison.holds {α : Type} [LT α] [DecidableLT α] (first second : α) : Comparison → Bool
  | .less => first < second
  | .greater => second < first

namespace PyVal

mutual

/-- `first == second`. -/
def equals : PyVal → PyVal → Bool
  | .none, .none => true
  | .str text, .str other => text = other
  | .list items, .list others => equalsAll items others
  | .dict entries, .dict others =>
      entries.length = others.length && equalsUnder entries others
  | first, second =>
      match first.number?, second.number? with
      | some a, some b => a = b
      | _, _ => false

/-- Two lists of equal values. -/
def equalsAll : List PyVal → List PyVal → Bool
  | [], [] => true
  | item :: rest, other :: others => equals item other && equalsAll rest others
  | _, _ => false

/-- The keys of a dictionary have equal values in another one. -/
def equalsUnder : List (String × PyVal) → PyDict → Bool
  | [], _ => true
  | (key, value) :: rest, others =>
      (match others.lookup key with
        | some other => equals value other
        | Option.none => false) && equalsUnder rest others

end

mutual

/-- `first < second` or `first > second`. -/
def compare (op : Comparison) : PyVal → PyVal → Except PyError Bool
  | .str text, .str other => .ok (op.holds text other)
  | .list items, .list others => compareAll op items others
  | first, second =>
      match first.number?, second.number? with
      | some a, some b => .ok (op.holds a b)
      | _, _ => .error (.typeError
          ("'" ++ op.text ++ "' not supported between instances of '" ++ first.typeName ++
            "' and '" ++ second.typeName ++ "'"))

/-- The first items that differ decide, or else the lengths. -/
def compareAll (op : Comparison) : List PyVal → List PyVal → Except PyError Bool
  | item :: rest, other :: others =>
      if equals item other then compareAll op rest others else compare op item other
  | items, others => .ok (op.holds items.length others.length)

end

/-- The first of the values that no other one exceeds in the sense of a comparison. -/
def extreme (op : Comparison) (name : String) : List PyVal → Except PyError PyVal
  | [] => .error (.valueError (name ++ "() iterable argument is empty"))
  | first :: others =>
      others.foldlM (fun best item => do return if ← compare op item best then item else best)
        first

/-- `max(values)`. -/
def maxOf (values : List PyVal) : Except PyError PyVal := extreme .greater "max" values

/-- `min(values)`. -/
def minOf (values : List PyVal) : Except PyError PyVal := extreme .less "min" values

end PyVal

/-! ## What extreme values bound -/

/-- A value that another one does not exceed in the sense of a comparison. -/
def Comparison.Bounds (op : Comparison) (best value : ℚ) : Prop :=
  match op with
  | .less => best ≤ value
  | .greater => value ≤ best

theorem Comparison.Bounds.trans {op : Comparison} {best between value : ℚ}
    (hfirst : op.Bounds best between) (hsecond : op.Bounds between value) :
    op.Bounds best value := by
  cases op
  · exact le_trans hfirst hsecond
  · exact le_trans hsecond hfirst

/-- What a comparison picks from two numbers bounds both. -/
theorem Comparison.bounds_pick (op : Comparison) (a b : ℚ) :
    op.Bounds (if op.holds a b then a else b) a ∧ op.Bounds (if op.holds a b then a else b) b := by
  cases op <;> simp only [Comparison.holds, Comparison.Bounds, decide_eq_true_eq] <;>
    split_ifs with hab
  · exact ⟨le_refl a, hab.le⟩
  · exact ⟨not_lt.mp hab, le_refl b⟩
  · exact ⟨le_refl a, hab.le⟩
  · exact ⟨not_lt.mp hab, le_refl b⟩

namespace PyVal

/-- Only numbers can be compared with a number. -/
theorem numbers_of_compare {op : Comparison} {value other : PyVal} {holds : Bool}
    (hcompare : compare op value other = .ok holds)
    (hnumber : value.number?.isSome = true ∨ other.number?.isSome = true) :
    ∃ a b, value.number? = some a ∧ other.number? = some b ∧ holds = op.holds a b := by
  cases value <;> cases other <;>
    simp only [compare, number?, Option.isSome_some, Option.isSome_none,
      Bool.false_eq_true, or_self, reduceCtorEq, Except.ok.injEq] at hcompare hnumber ⊢
  all_goals exact ⟨_, _, rfl, rfl, hcompare.symm⟩

/-- If the extreme value of a list is a number, it bounds the values, which all are numbers. -/
theorem bounds_of_extreme {op : Comparison} {name : String} {values : List PyVal} {best : PyVal}
    {bound : ℚ} (hextreme : extreme op name values = .ok best)
    (hbound : best.number? = some bound) :
    ∀ value ∈ values, ∃ number, value.number? = some number ∧ op.Bounds bound number := by
  cases values with
  | nil => cases hextreme
  | cons first others =>
      unfold extreme at hextreme
      dsimp only at hextreme
      induction others generalizing first with
      | nil =>
          cases hextreme
          rw [List.forall_mem_singleton]
          refine ⟨bound, hbound, ?_⟩
          cases op <;> exact le_refl bound
      | cons item rest ih =>
          rw [List.foldlM_cons] at hextreme
          obtain ⟨leader, hturn, hrest⟩ := exists_of_bind_eq_ok hextreme
          obtain ⟨exceeds, hcompare, hleader⟩ := exists_of_bind_eq_ok hturn
          obtain ⟨⟨number, hnumber, hleads⟩, hothers⟩ := List.forall_mem_cons.mp (ih leader hrest)
          cases hleader
          have hone : item.number?.isSome = true ∨ first.number?.isSome = true := by
            cases exceeds <;> simp_all
          obtain ⟨a, b, ha, hb, hholds⟩ := numbers_of_compare hcompare hone
          have hpick : number = if op.holds a b then a else b := by
            rw [hholds] at hnumber
            split_ifs at hnumber ⊢
            · exact Option.some.inj (hnumber.symm.trans ha)
            · exact Option.some.inj (hnumber.symm.trans hb)
          rw [hpick] at hleads
          obtain ⟨hitem, hfirst⟩ := op.bounds_pick a b
          rw [List.forall_mem_cons, List.forall_mem_cons]
          exact ⟨⟨b, hb, hleads.trans hfirst⟩, ⟨a, ha, hleads.trans hitem⟩, hothers⟩

/-- The extreme value of a list is one of its values. -/
theorem mem_of_extreme {op : Comparison} {name : String} {values : List PyVal} {best : PyVal}
    (hextreme : extreme op name values = .ok best) : best ∈ values := by
  cases values with
  | nil => cases hextreme
  | cons first others =>
      unfold extreme at hextreme
      dsimp only at hextreme
      induction others generalizing first with
      | nil =>
          cases hextreme
          exact List.mem_singleton_self _
      | cons item rest ih =>
          rw [List.foldlM_cons] at hextreme
          obtain ⟨leader, hturn, hrest⟩ := exists_of_bind_eq_ok hextreme
          obtain ⟨exceeds, -, hleader⟩ := exists_of_bind_eq_ok hturn
          cases hleader
          rcases List.mem_cons.mp (ih _ hrest) with hbest | hbest
          · rw [hbest]
            split_ifs
            · exact List.mem_cons_of_mem _ List.mem_cons_self
            · exact List.mem_cons_self
          · exact List.mem_cons_of_mem _ (List.mem_cons_of_mem _ hbest)

end PyVal

end Goveling.Python
