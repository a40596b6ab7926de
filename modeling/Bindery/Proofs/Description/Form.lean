import Bindery.Description.Reader
import Bindery.Proofs.Result

/-!
# The form of a description

A description is documented by the keys of its objects and by what their values must be. Any key may
be missing, what a text says is left open, and a value may be null only where that means the same as
a missing key.
-/

namespace Bindery.Description

/-! ## Values at keys -/

/-- The value of a key of an object. -/
def field? (v : Json) (key : String) : Option Json :=
  match v with
  | .object ms => Json.member? key ms
  | _ => none

/-- The text at a key. -/
def textAt? (v : Json) (key : String) : Option String := (field? v key).bind Label.text?

/-- The items of the array at a key; none when the key is missing. -/
def listAt (v : Json) (key : String) : List Json :=
  match field? v key with
  | some (.array vs) => vs
  | _ => []

/-! ## Forms -/

/-- What a value must be. -/
abbrev Form := Json → Bool

def isText : Form
  | .string _ => true
  | _ => false

def isTruth : Form
  | .bool _ => true
  | _ => false

def isInteger : Form
  | .int _ => true
  | _ => false

/-- Null, or a value of a form. -/
def orNull (f : Form) : Form
  | .null => true
  | v => f v

/-- An array of values of a form. -/
def listOf (f : Form) : Form
  | .array vs => vs.all f
  | _ => false

/-- An object in which the values of some keys are of their forms, where they are there. -/
def objectOf (fields : List (String × Form)) : Form
  | .object ms => fields.all fun p => (Json.member? p.1 ms).all p.2
  | _ => false

/-! ## The parts of a description -/

def sourceForm : Form :=
  objectOf [("gir_dir", isText), ("repository_url", orNull isText), ("hash", orNull isText)]

def configForm : Form :=
  objectOf [("min_cfg_version", orNull isText), ("girs_version", listOf sourceForm),
    ("single_version_file", orNull isText)]

def namespaceForm : Form :=
  objectOf [("name", isText), ("crate_name", isText), ("sys_crate_name", isText),
    ("min_required_version", orNull isText)]

/-- The keys that only a type of some kind has. -/
def typeFields (kind : Option String) : List (String × Form) :=
  if kind = some "class" then [("ref_fn", orNull isText), ("unref_fn", orNull isText)] else []

def typeForm : Form := fun v =>
  objectOf ([("namespace", isText), ("kind", isText), ("name", isText), ("c_type", isText),
    ("glib_get_type", orNull isText)] ++ typeFields (textAt? v "kind")) v

def importForm : Form :=
  objectOf [("name", isText), ("version", orNull isText), ("constraints", listOf isText)]

def ancestorForm : Form := objectOf [("namespace", isText), ("name", isText), ("status", isText)]

def deriveForm : Form := objectOf [("names", listOf isText), ("cfg_condition", orNull isText)]

def functionForm : Form :=
  objectOf [("name", isText), ("parameter_count", isInteger), ("hidden", isTruth),
    ("need_generate", isTruth), ("returns_value", isTruth), ("ret_nullable", isTruth),
    ("version", orNull isText)]

def copyForm : Form := fun v =>
  isText v ||
    objectOf [("name", isText), ("version", orNull isText), ("first_parameter_mut", isTruth)] v

def inlineFields : List (String × Form) :=
  [("boxed_inline", isTruth), ("init_function_expression", orNull isText),
    ("copy_into_function_expression", orNull isText), ("clear_function_expression", orNull isText)]

/-- The keys that only a wrapper of some kind has. -/
def shapeFields (kind : Option String) : List (String × Form) :=
  if kind = some "fundamental" then
    [("get_type_fn", isText), ("ref_fn", orNull isText), ("unref_fn", orNull isText),
      ("parents", listOf ancestorForm)]
  else if kind = some "object" ∨ kind = some "interface" then
    [("get_type_fn", isText), ("parents", listOf ancestorForm), ("class_struct", orNull isText)]
  else if kind = some "boxed" then
    [("copy_fn", copyForm), ("free_fn", isText), ("get_type_fn", orNull isText),
      ("get_type_version", orNull isText)] ++ inlineFields
  else if kind = some "auto_boxed" then ("get_type_fn", isText) :: inlineFields
  else if kind = some "shared" then
    [("ref_fn", isText), ("unref_fn", isText), ("get_type_fn", orNull isText),
      ("get_type_version", orNull isText)]
  else []

def wrapperForm : Form := fun v =>
  objectOf ([("kind", isText), ("type_name", isText), ("glib_name", isText), ("visibility", isText),
    ("doc_alias", orNull isText), ("derives", listOf deriveForm),
    ("functions", listOf functionForm), ("has_builder", isTruth)] ++
      shapeFields (textAt? v "kind")) v

/-- The form of a whole description. -/
def form : Form :=
  objectOf [("config", configForm), ("namespaces", listOf namespaceForm),
    ("types", listOf typeForm), ("imports", listOf importForm), ("wrappers", listOf wrapperForm)]

/-! ## What a form says -/

variable {v x : Json} {f : Form} {fields : List (String × Form)} {k place : String}

theorem isText_iff : isText v = true ↔ ∃ s, v = .string s := by
  cases v <;> simp [isText]

theorem listOf_iff : listOf f v = true ↔ ∃ vs, v = .array vs ∧ ∀ x ∈ vs, f x = true := by
  cases v <;> simp [listOf]

theorem orNull_iff : orNull f v = true ↔ v = .null ∨ f v = true := by
  cases v <;> simp [orNull]

/-- An object has a value of the right form at each of its keys, where it has one. -/
theorem form_of_field? (h : objectOf fields v = true) (hkey : (k, f) ∈ fields)
    (hx : field? v k = some x) : f x = true := by
  cases v with
  | object ms =>
    have hall := List.all_eq_true.1 h (k, f) hkey
    simpa [show Json.member? k ms = some x from hx] using hall
  | _ => cases hx

theorem exists_members (h : objectOf fields v = true) : ∃ ms, v = .object ms := by
  cases v <;> simp [objectOf] at h ⊢

theorem require_eq (h : objectOf fields v = true) : require v k place =
    (field? v k).elim (refuse (.missingKey place k)) .ok := by
  obtain ⟨ms, rfl⟩ := exists_members h
  simp only [require, field?]
  cases Json.member? k ms <;> rfl

theorem require_eq_ok (h : objectOf fields v = true) :
    require v k place = .ok x ↔ field? v k = some x := by
  rw [require_eq h]
  cases field? v k <;> simp [refuse]

theorem getD_eq (h : objectOf fields v = true) (fallback : Json) :
    getD v k fallback = .ok ((field? v k).getD fallback) := by
  obtain ⟨ms, rfl⟩ := exists_members h
  rfl

/-- A text that must be there. -/
theorem require_text (h : objectOf fields v = true) (hkey : (k, isText) ∈ fields)
    (hx : require v k place = .ok x) : ∃ s, x = .string s ∧ textAt? v k = some s := by
  have hfield := (require_eq_ok h).1 hx
  obtain ⟨s, rfl⟩ := isText_iff.1 (form_of_field? h hkey hfield)
  exact ⟨s, rfl, by rw [textAt?, hfield]; rfl⟩

/-- A text that may be missing, or null in place of that. -/
theorem get_text (h : objectOf fields v = true) (hkey : (k, orNull isText) ∈ fields)
    (hx : get v k = .ok x) : x = .null ∨ ∃ s, x = .string s := by
  rw [get, getD_eq h] at hx
  obtain rfl := Except.ok.inj hx
  cases hfield : field? v k with
  | none => exact .inl rfl
  | some y => exact (orNull_iff.1 (form_of_field? h hkey hfield)).imp_right isText_iff.1

/-- The items of an array are those that are read at its key. -/
theorem itemsAt_eq (h : objectOf fields v = true) (hkey : (k, listOf f) ∈ fields) :
    itemsAt v k = .ok (listAt v k) := by
  unfold itemsAt listAt
  rw [getD_eq h]
  cases hx : field? v k with
  | none => rfl
  | some x =>
    obtain ⟨vs, rfl, -⟩ := listOf_iff.1 (form_of_field? h hkey hx)
    rfl

theorem forall_listAt (h : objectOf fields v = true) (hkey : (k, listOf f) ∈ fields) :
    ∀ x ∈ listAt v k, f x = true := by
  unfold listAt
  cases hx : field? v k with
  | none => simp
  | some y =>
    obtain ⟨vs, rfl, hvs⟩ := listOf_iff.1 (form_of_field? h hkey hx)
    exact hvs

end Bindery.Description
