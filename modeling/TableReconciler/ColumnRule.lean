import TableReconciler.Table
import TableReconciler.Text.Case

/-!
# Column rules

Which changes to columns are refused before any statement is executed: a change of type, and a
change of the number of columns together with a change of a column that stays.  Types are compared
in a normal form, in lower case and without synonyms.
-/

namespace TableReconciler

/-! ## Column types -/

/-- The synonyms of column types, with the name each stands for. -/
def typeSynonyms : List (String × String) := [
    ("integer", "int"), ("long", "bigint"), ("real", "float"), ("short", "smallint"),
    ("byte", "tinyint"), ("decimal", "decimal(10,0)"), ("dec", "decimal(10,0)"),
    ("numeric", "decimal(10,0)")]

/-- The normal form of a column type. -/
def canonicalType (type : String) : String :=
  let lowered := Text.lower type
  (typeSynonyms.lookup lowered).getD lowered

/-! ## Refused changes -/

/-- A change of columns that is refused. -/
inductive ColumnFault where
  /-- A column would change its type. -/
  | typeChange (column oldType newType : String)
  /-- A column that stays would change while the number of columns changes. -/
  | mixedChange (column : String)
  deriving DecidableEq, Repr

/-- The wording of a refusal. -/
def ColumnFault.message : ColumnFault → String
  | .typeChange column oldType newType =>
      "changing the 'type' of an existing column is not supported: column '" ++ column ++
        "' from " ++ oldType ++ " to " ++ newType
  | .mixedChange column =>
      "detected changes in both number of columns and existing column field values (column '" ++
        column ++ "'), please do not change number of columns and update column values at the " ++
        "same time"

/-- A rule on column changes. -/
inductive ColumnRule where
  /-- With equal numbers of columns, no position changes its type. -/
  | noTypeChange
  /-- With different numbers of columns, the columns that stay keep their fields. -/
  | noMixedChange
  deriving DecidableEq, Repr

namespace ColumnRule

/-- The stable identifier of a rule. -/
def code : ColumnRule → String
  | .noTypeChange => "NO_COLUMN_TYPE_CHANGE"
  | .noMixedChange => "NO_MIXED_COLUMN_MEMBERSHIP_AND_ATTRIBUTE_CHANGE"

variable {τ : Type} [Entry τ]

/-- Whether two columns have the same type. -/
def sameType (new : Column τ) (old : Column) : Bool :=
  canonicalType new.type == canonicalType old.type

/-- Whether two columns agree on type, nullability and comment. -/
def sameFields (new : Column τ) (old : Column) : Bool :=
  sameType new old && new.nullable == old.nullable && Entry.text? new.comment == some old.comment

/-- The first position at which the type changes. -/
def firstTypeChange? : List (Column τ) → List Column → Option ColumnFault
  | new :: desired, old :: previous =>
      if sameType new old then firstTypeChange? desired previous
      else some (.typeChange old.name old.type new.type)
  | _, _ => none

/-- The desired column of a given name; the last one if there are several. -/
def columnNamed? (desired : List (Column τ)) (name : String) : Option (Column τ) :=
  desired.reverse.find? fun column => Entry.text? column.name == some name

/-- Whether a previous column stays and changes. -/
def changes (desired : List (Column τ)) (old : Column) : Bool :=
  (columnNamed? desired old.name).any fun new => !sameFields new old

/-- The refusal of a rule, if it refuses a change. -/
def violation? (rule : ColumnRule) (desired : List (Column τ)) (previous : List Column) :
    Option ColumnFault :=
  match rule with
  | .noTypeChange =>
      if desired.length = previous.length then firstTypeChange? desired previous else none
  | .noMixedChange =>
      if desired.length = previous.length then none
      else (previous.find? (changes desired)).map (.mixedChange ·.name)

/-- Apply a rule. -/
def check (rule : ColumnRule) (desired : List (Column τ)) (previous : List Column) :
    Except ColumnFault Unit :=
  match rule.violation? desired previous with
  | some fault => .error fault
  | none => .ok ()

/-- The rules that apply unless others are given. -/
def defaults : List ColumnRule := [.noTypeChange, .noMixedChange]

/-- Apply rules one after the other; the first refusal counts. -/
def checkAll (rules : List ColumnRule) (desired : List (Column τ)) (previous : List Column) :
    Except ColumnFault Unit :=
  rules.forM fun rule => rule.check desired previous

end ColumnRule

end TableReconciler
