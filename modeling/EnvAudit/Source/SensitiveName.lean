import EnvAudit.Env.Name

/-!
# Sensitive names

Names of variables that usually hold a secret, told by the words in them.
-/

namespace EnvAudit

/-- Words that make a name sensitive. -/
def sensitiveWords : List Text :=
  ["TOKEN", "SECRET", "PASSWORD", "PASSWD", "PWD", "CREDENTIAL", "APIKEY", "API_KEY",
    "PRIVATE_KEY", "ACCESS_KEY", "_KEY", "AUTH"].map String.toList

/-- Words of names that look sensitive and hold something public. -/
def publicWords : List Text :=
  ["PUBLIC_KEY", "PUB_KEY", "PUBLISHABLE_KEY", "KEY_ID", "AUTH_URL", "AUTHOR", "TOKEN_URL",
    "SECRET_NAME"].map String.toList

/-- Whether the name in UPPER_SNAKE_CASE has a sensitive word and no public one. -/
def isSensitive (name : Text) : Bool :=
  let name := upperSnake name
  !publicWords.any (fun w => Text.hasPart w name)
    && sensitiveWords.any (fun w => Text.hasPart w name)

end EnvAudit
