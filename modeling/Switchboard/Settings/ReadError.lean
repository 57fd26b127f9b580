/-
# Unreadable files

Why the text of a settings file makes no layer of settings.
-/

namespace Switchboard.Settings

/-- Why a text makes no layer: it cannot be read, or a table has a key that is neither a text nor a
whole number. -/
inductive ReadError where
  | unreadable
  | oddKey
  deriving DecidableEq, Repr

end Switchboard.Settings
