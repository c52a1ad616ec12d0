import BatchJob.Machine.Shell.Expansion

/-!
# Setting variables

How the settings in a command are carried out: of whole variables, of single items of an array, and of all its items
at once.
-/

namespace BatchJob.Machine.Shell

/-- The text that a value comes to which is added to another one, or stands for itself. -/
def joinedValue (entry : Variable) (appends : Bool) (former value : String) : Deed String := do
  if entry.isInteger then
    let sum ← arithmetic (if appends then (if former.isEmpty then "0" else former) ++ "+(" ++ value ++ ")" else value)
    return toString sum
  else return recased entry (if appends then former ++ value else value)

/-- Fails if the value of a variable stays as it is. -/
def refuseFixed (name : String) : Deed Unit := do
  let s ← get
  if s.isFixed name then
    match s.dialect with
    | .standard => Deed.refuse (name ++ ": is read only")
    | .extended => Deed.refuse (name ++ ": readonly variable") 1

/-- Changes what a variable holds. -/
def setContent (name : String) (content : Content) : Deed Unit :=
  modify fun s => s.changeVariable name fun entry => { entry with content := some content }

/-- Sets one item of an array. -/
def setItem (name key : String) (appends : Bool) (value : String) : Deed Unit := do
  refuseFixed name
  let entry := ((← get).lookup? name).getD {}
  match entry.content with
  | some (.keyed items) =>
    let value ← joinedValue entry appends ((items.lookup key).getD "") value
    setContent name (.keyed (insertKeyed key value items))
  | content =>
    let items := Content.toIndexed content
    let index ← arithmetic key
    let last : Int := ((items.getLast?.map Prod.fst).getD 0 : Nat)
    let index := if index < 0 then last + 1 + index else index
    if index < 0 then Deed.refuse (name ++ "[" ++ key ++ "]: bad array subscript") 1
    let value ← joinedValue entry appends ((items.lookup index.toNat).getD "") value
    setContent name (.indexed (Content.insertAt index.toNat value items))

/-- Adds items to an array whose texts stand under numbers. -/
def addIndexed (items : List (Option Word × Word)) (present : List (Nat × String)) :
    Deed (List (Nat × String)) := do
  match items with
  | [] => return present
  | (key, value) :: rest =>
    let next := ((present.getLast?.map Prod.fst).map (· + 1)).getD 0
    match key with
    | none =>
      let values ← fields value
      addIndexed rest (present ++ values.mapIdx fun i value => (next + i, value))
    | some key =>
      let index ← arithmetic (← textOfWord key)
      let value ← valueOfWord value
      addIndexed rest (Content.insertAt index.toNat value present)

/-- Adds items to an array whose texts stand under keys. Where no key is given, every other text is one. -/
def addKeyed (items : List (Option Word × Word)) (present : List (String × String)) :
    Deed (List (String × String)) := do
  match items with
  | [] => return present
  | (some key, value) :: rest =>
    let key ← textOfWord key
    let value ← valueOfWord value
    addKeyed rest (insertKeyed key value present)
  | (none, key) :: (none, value) :: rest =>
    let key ← textOfWord key
    let value ← valueOfWord value
    addKeyed rest (insertKeyed key value present)
  | (none, key) :: rest =>
    let key ← textOfWord key
    addKeyed rest (insertKeyed key "" present)

/-- Sets all items of an array, or adds some. -/
def setItems (name : String) (appends : Bool) (items : List (Option Word × Word)) : Deed Unit := do
  refuseFixed name
  match ((← get).lookup? name).bind (·.content) with
  | some (.keyed present) => setContent name (.keyed (← addKeyed items (if appends then present else [])))
  | content =>
    setContent name (.indexed (← addIndexed items (if appends then Content.toIndexed content else [])))

/-- Carries out a setting; answers how a trace shows it. -/
def perform (setting : Setting) : Deed String := do
  match setting with
  | .mk name none appends [.items items] =>
    setItems name appends items
    return name ++ "=(" ++ " ".intercalate ((((← get).content? name).map Content.values).getD []) ++ ")"
  | .mk name (some subscript) appends value =>
    let key ← textOfWord subscript
    let value ← valueOfWord value
    setItem name key appends value
    return name ++ "[" ++ key ++ "]=" ++ value
  | .mk name none appends value =>
    let value ← valueOfWord value
    if appends then
      refuseFixed name
      let entry := ((← get).lookup? name).getD {}
      let whole ← joinedValue entry true (((← get).value? name).getD "") value
      modify fun s => s.assign name whole
      return name ++ "+=" ++ value
    else
      assignOrRefuse name value
      return name ++ "=" ++ value

/-- The name of the variable that a setting sets. -/
def nameOfSetting : Setting → String
  | .mk name _ _ _ => name

end BatchJob.Machine.Shell
