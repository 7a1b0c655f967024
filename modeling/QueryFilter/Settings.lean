import QueryFilter.Service

/-!
# QueryFilter.Settings

A service from settings. The settings are texts by name, such as a process's environment; they give
the configuration's pagination and the page fallback. The service is built when it is first asked
for and kept.

* `Settings`: the texts.
* `Settings.config`, `Settings.fallback`: what they give.
* `SharedService`: the service that is kept.
-/

namespace QueryFilter

/-- Texts by name. -/
abbrev Settings := List (String × String)

namespace Settings

/-- The setting for the page number. -/
def pageNoName : String := "QS_PAGE_NO"

/-- The setting for the page size. -/
def pageSizeName : String := "QS_PAGE_SIZE"

/-- The setting for the sort. -/
def sortName : String := "QS_SORT"

/-- The setting for the page fallback. -/
def fallbackName : String := "QS_PAGE_SIZE_FALLBACK"

/-- The text of a setting, empty if it is not set. -/
def text (settings : Settings) (name : String) : String := (settings.lookup name).getD ""

/-- The number that a setting spells, by the name of the field that it is for. -/
def number (settings : Settings) (name field : String) : Except Fault (Mapping Value) := do
  match ← readNumber (settings.text name) with
  | some n => return [(.text field, .ofNumber n)]
  | none => return []

/-- The sort that a setting spells, by its field's name. It is read as a request's sort is. -/
def sort (settings : Settings) : Except Fault (Mapping Value) := do
  let text := settings.text sortName
  if text = "" then return []
  let tokens ← readValues (fun _ v => .ok v) .standard .eq (.text text)
  let values ← (readSort {} [] false tokens).result
  if values.isEmpty then return []
  let mapping ← sortMapping values
  return [(.text FieldName.sort, .mapping mapping)]

/-- The configuration: a pagination section with the settings that spell something. -/
def config (settings : Settings) : Except Fault Config := do
  let pageNo ← settings.number pageNoName FieldName.pageNo
  let pageSize ← settings.number pageSizeName FieldName.pageSize
  let sort ← settings.sort
  let entries := pageNo ++ pageSize ++ sort
  if entries.isEmpty then return []
  return [(.text FieldName.pagination, .mapping entries)]

/-- The page fallback: the number that its setting spells, else one. -/
def fallback (settings : Settings) : Except Fault Value := do
  match ← readNumber (settings.text fallbackName) with
  | some n => return .ofNumber n
  | none => return .int 1

/-- The service that the settings give. It has no schema. -/
def service (settings : Settings) : Except Fault Service := do
  let config ← settings.config
  let fallback ← settings.fallback
  return { config, fallback }

end Settings

/-- The service that was built first, kept for whoever asks for it next. -/
structure SharedService where
  kept : Option Service := none

namespace SharedService

/-- The service, built from the settings if none is kept, and what is kept from now on. A fault of
the settings keeps nothing. -/
def get (shared : SharedService) (settings : Settings) :
    Except Fault (Service × SharedService) := do
  match shared.kept with
  | some service => return (service, shared)
  | none =>
      let service ← settings.service
      return (service, { kept := some service })

end SharedService

end QueryFilter
