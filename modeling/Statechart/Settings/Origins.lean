import Statechart.Settings.Basic

/-!
# Allowed origins

The service has one setting: the origins from which a browser may call it, with commas between
them.  Blanks around an origin do not count, and an empty one is no origin.
-/

namespace Statechart.Origins

/-- The setting for the allowed origins. -/
def settingName : Text := "MERMAID_WORKFLOW_CORS_ORIGINS".toList

/-- The setting if it is not given. -/
def fallback : Text := "http://localhost:5173,http://127.0.0.1:5173".toList

/-- The setting as it is given. -/
def ofSources (s : Settings.Sources) : Text := (s.get? settingName).getD fallback

/-- The origins in a setting. -/
def read (setting : Text) : List Text :=
  ((Text.pieces ',' setting).map Text.trim).filter (· ≠ [])

end Statechart.Origins
