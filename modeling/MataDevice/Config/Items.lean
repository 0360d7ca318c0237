import Mathlib.Data.List.DropRight
import MataDevice.Lib.Format
import MataDevice.Lib.Numerals

/-!
# Configuration items

A configuration file has lines of the form `NAME=VALUE`. The reader compares each of them with a
table of parameters and stores the value in the variables of those that have the name. It does not
read to the end of the file: it counts down from the length of the table by the number of
parameters that each line has set, and stops at zero. The updater, which takes its lines from a
buffer, counts down from one less.

What is a text here is a string of C, without the byte that ends it. The `double` of a value is of
an arbitrary type.
-/

namespace MataDevice.Config

open MataDevice.Format (bytes)
open MataDevice.Numerals (isSpace strtol atoi)

/-! ## Strings -/

/-- The string at the beginning of a buffer -/
def cString (buf : List UInt8) : List UInt8 := buf.takeWhile (· ≠ 0)

/-- `strtok_r` for one separator: the token, and the text that is left; `none` for a null pointer. -/
def strtok (delim : UInt8) (str : List UInt8) : Option (List UInt8 × List UInt8) :=
  let str := str.dropWhile (· == delim)
  if str = [] then none
  else some (str.takeWhile (· ≠ delim), (str.dropWhile (· ≠ delim)).drop 1)

/-- `loc_util_trim_space`. A text of spaces alone is left as it is. -/
def locUtilTrimSpace (str : List UInt8) : List UInt8 :=
  if str.all isSpace then str else (str.dropWhile isSpace).rdropWhile isSpace

/-- The first line of a text, with the newline at its end -/
def firstLine (text : List UInt8) : List UInt8 :=
  text.takeWhile (· ≠ 10) ++ (text.dropWhile (· ≠ 10)).take 1

/-- `fgets` with a buffer of `n` bytes: what it has read, and what is left of the file. -/
def fgets (n : ℕ) (fp : List UInt8) : Option (List UInt8 × List UInt8) :=
  if n = 0 then none
  else if n = 1 then some ([], fp)
  else if fp = [] then none
  else
    let buf := (firstLine fp).take (n - 1)
    some (buf, fp.drop buf.length)

/-! ## Parameters -/

section

variable (F : Type)

/-- What `param_ptr` points to -/
inductive ParamVar
  | string (value : List UInt8)
  | number (value : Int32)
  | double (value : F)
  deriving DecidableEq, Repr

/-- `loc_param_s_type`, with the variables that the pointers lead to; `none` is a null pointer. -/
structure LocParam where
  paramName : List UInt8
  paramPtr : Option (ParamVar F)
  paramSet : Option UInt8
  paramType : Char
  deriving DecidableEq, Repr

/-- `loc_param_v_type` -/
structure ConfigValue where
  paramName : List UInt8
  paramStrValue : List UInt8
  paramIntValue : Int32
  paramDoubleValue : F
  deriving DecidableEq, Repr

end

section

variable {F : Type} (atof : List UInt8 → F) (zero : F)

/-- The beginning of `loc_fill_conf_item`, which takes a line apart -/
def configValue (inputBuf : List UInt8) : Option (ConfigValue F) :=
  match strtok 61 inputBuf with
  | none => none
  | some (paramName, lasts) =>
    if lasts = [] then none
    else
      let paramName := locUtilTrimSpace paramName
      let str := locUtilTrimSpace lasts
      if 3 ≤ str.length ∧ str[0]? = some 48 ∧ (str[1]? = some 120 ∨ str[1]? = some 88) then
        some ⟨paramName, str, Int32.ofInt (strtol 16 (str.drop 2)), zero⟩
      else some ⟨paramName, str, atoi str, atof str⟩

/-- `loc_set_config_entry`: whether it returns 0, and the parameter after it -/
def locSetConfigEntry (stringLen : ℕ) (configValue : ConfigValue F) (configEntry : LocParam F) :
    Bool × LocParam F :=
  match configEntry.paramPtr with
  | none => (false, configEntry)
  | some var =>
    if configEntry.paramName = configValue.paramName then
      let set (value : ParamVar F) : Bool × LocParam F :=
        (true, { configEntry with
          paramPtr := some value
          paramSet := configEntry.paramSet.map fun _ ↦ 1 })
      match configEntry.paramType with
      | 's' =>
        if configValue.paramStrValue = bytes "NULL".toList then set (.string [])
        -- `strlcpy` to a buffer of no bytes
        else if stringLen = 0 then set var
        else set (.string (configValue.paramStrValue.take (stringLen - 1)))
      | 'n' => set (.number configValue.paramIntValue)
      | 'f' => set (.double configValue.paramDoubleValue)
      | _ => (false, configEntry)
    else (false, configEntry)

/-- `loc_fill_conf_item`: the number of parameters that it has set, and the table after it -/
def locFillConfItem (stringLen : ℕ) (inputBuf : List UInt8) (configTable : List (LocParam F)) :
    ℕ × List (LocParam F) :=
  match configValue atof zero inputBuf with
  | none => (0, configTable)
  | some value =>
    (configTable.countP fun entry ↦ (locSetConfigEntry stringLen value entry).1,
      configTable.map fun entry ↦ (locSetConfigEntry stringLen value entry).2)

/-- `num_params -= ret` for an `unsigned int` -/
def countDown (numParams ret : ℕ) : ℕ :=
  if ret ≤ numParams then numParams - ret else numParams + 2 ^ 32 - ret

/-! ## Reading a file -/

/-- The loop of `loc_read_conf_r_long`: the rest of the file and the table after it; `none` when it
does not come to an end, because `fgets` with a buffer of one byte reads nothing. -/
def readLoop (stringLen : ℕ) :
    ℕ → ℕ → List UInt8 → List (LocParam F) → Option (List UInt8 × List (LocParam F))
  | 0, _, _, _ => none
  | fuel + 1, numParams, confFp, configTable =>
    if numParams = 0 then some (confFp, configTable)
    else
      match fgets stringLen confFp with
      | none => some (confFp, configTable)
      | some (inputBuf, confFp) =>
        let filled := locFillConfItem atof zero stringLen (cString inputBuf) configTable
        readLoop stringLen fuel (countDown numParams filled.1) confFp filled.2

/-- Clears the validity bits. -/
def clearSet (entry : LocParam F) : LocParam F :=
  { entry with paramSet := entry.paramSet.map fun _ ↦ 0 }

/-- `loc_read_conf_r_long` for a file that is open -/
def locReadConfRLong (confFp : List UInt8) (configTable : List (LocParam F)) (stringLen : ℕ) :
    Option (List UInt8 × List (LocParam F)) :=
  readLoop atof zero stringLen (confFp.length + 1) configTable.length confFp
    (configTable.map clearSet)

/-- `loc_read_conf_long`: the table, and the table `loc_param_table` of the module, after it. A file
that cannot be opened is `none`, and so is the table for a null pointer. -/
def locReadConfLong (confFile : Option (List UInt8)) (configTable : Option (List (LocParam F)))
    (locParamTable : List (LocParam F)) (stringLen : ℕ) :
    Option (Option (List (LocParam F)) × List (LocParam F)) :=
  match confFile with
  | none => some (configTable, locParamTable)
  | some file => do
    let configTable ←
      match configTable with
      | none => some none
      | some [] => some (some [])
      | some table => (locReadConfRLong atof zero file table stringLen).map fun read ↦ some read.2
    let read ← locReadConfRLong atof zero file locParamTable stringLen
    some (configTable, read.2)

/-! ## Updating from a buffer -/

/-- The loop of `loc_update_conf_long`: how many lines it has handled, and the table after it -/
def updateLoop (stringLen : ℕ) :
    ℕ → ℕ → List UInt8 → List (LocParam F) → ℕ × List (LocParam F)
  | 0, _, _, configTable => (0, configTable)
  | fuel + 1, numParams, saveptr, configTable =>
    match strtok 10 saveptr with
    | none => (0, configTable)
    | some (inputBuf, saveptr) =>
      if numParams = 0 then (0, configTable)
      else
        let filled := locFillConfItem atof zero stringLen inputBuf configTable
        let rest := updateLoop stringLen fuel (countDown numParams filled.1) saveptr filled.2
        (rest.1 + 1, rest.2)

/-- `loc_update_conf_long` for a buffer and a table that are not empty, if there is memory for the
copy of the buffer -/
def locUpdateConfLong (confData : List UInt8) (configTable : List (LocParam F)) (stringLen : ℕ) :
    ℤ × List (LocParam F) :=
  if confData = [] ∨ configTable = [] then (-1, configTable)
  else
    let confCopy := cString confData
    let updated := updateLoop atof zero stringLen (confCopy.length + 1) (configTable.length - 1)
      confCopy configTable
    (updated.1, updated.2)

end

end MataDevice.Config
