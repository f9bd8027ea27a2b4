import EnvAudit.Text.Scan

/-!
# Credential formats

What the credentials of well-known providers look like.  A format is a sequence of parts, each of
which can be taken in one way only, so recognising one needs no search beyond its first place.
-/

namespace EnvAudit

/-! ## Parts of a format -/

/-- A part of a credential. -/
inductive Part where
  /-- One of the words, the first that fits. -/
  | word (choices : List Text)
  /-- One of the words, or none of them. -/
  | optional (choices : List Text)
  /-- Exactly `n` characters of a class. -/
  | exactly (n : Nat) (isPart : Char → Bool)
  /-- A whole run of at least `n` characters of a class. -/
  | atLeast (n : Nat) (isPart : Char → Bool)
  /-- Nothing, where no word character follows. -/
  | wordEnd

/-- What follows the part at the front of a text. -/
def Part.after? : Part → Text → Option Text
  | .word choices, s => Text.afterSome? choices s
  | .optional choices, s => some ((Text.afterSome? choices s).getD s)
  | .exactly n isPart, s => Text.afterExactly? isPart n s
  | .atLeast n isPart, s => Text.afterRun? isPart n s
  | .wordEnd, s => if Text.closesWord s then some s else none

def afterParts? : List Part → Text → Option Text
  | [], s => some s
  | p :: ps, s => (p.after? s).bind (afterParts? ps)

/-- A provider with the format of its credentials; most formats begin a word. -/
structure CredentialFormat where
  provider : Text
  startsWord : Bool
  parts : List Part

/-- Whether a credential begins here. -/
def CredentialFormat.beginsHere (f : CredentialFormat) (before : Option Char) (s : Text) : Bool :=
  (!f.startsWord || Text.opensWord before) && (afterParts? f.parts s).isSome

/-- Whether the text holds a credential of the format. -/
def CredentialFormat.isIn (f : CredentialFormat) (s : Text) : Bool :=
  Text.occurs f.beginsHere s

/-! ## The formats -/

def isLetterOrDigit (c : Char) : Bool := isAsciiLetter c || isAsciiDigit c

def isCapitalOrDigit (c : Char) : Bool := isAsciiUpper c || isAsciiDigit c

def isNameOrDash (c : Char) : Bool := isNameChar c || c == '-'

def isLetterDigitOrDash (c : Char) : Bool := isLetterOrDigit c || c == '-'

/-- A word that has to stand there. -/
def Part.literal (w : String) : Part := .word [w.toList]

/-- A word out of several. -/
def Part.oneOf (ws : List String) : Part := .word (ws.map String.toList)

/-- The known formats, the most telling first. -/
def credentialFormats : List CredentialFormat := [
  ⟨"AWS access key id".toList, true,
    [.oneOf ["AKIA", "ASIA"], .exactly 16 isCapitalOrDigit, .wordEnd]⟩,
  ⟨"Stripe secret key".toList, true,
    [.literal "sk_", .oneOf ["live", "test"], .literal "_", .atLeast 24 isLetterOrDigit]⟩,
  ⟨"Stripe restricted key".toList, true,
    [.literal "rk_", .oneOf ["live", "test"], .literal "_", .atLeast 24 isLetterOrDigit]⟩,
  ⟨"GitHub token".toList, true,
    [.oneOf ["ghp_", "gho_", "ghu_", "ghs_", "ghr_"], .atLeast 36 isNameChar]⟩,
  ⟨"GitHub fine-grained token".toList, true, [.literal "github_pat_", .atLeast 22 isNameChar]⟩,
  ⟨"Slack token".toList, true,
    [.oneOf ["xoxb-", "xoxa-", "xoxp-", "xoxr-", "xoxs-"], .atLeast 10 isLetterDigitOrDash]⟩,
  ⟨"Google API key".toList, true, [.literal "AIza", .exactly 35 isNameOrDash]⟩,
  ⟨"OpenAI API key".toList, true, [.literal "sk-", .atLeast 40 isNameOrDash]⟩,
  ⟨"SendGrid API key".toList, true,
    [.literal "SG.", .exactly 22 isNameOrDash, .literal ".", .exactly 43 isNameOrDash]⟩,
  ⟨"JSON Web Token".toList, true,
    [.literal "eyJ", .atLeast 10 isNameOrDash, .literal ".eyJ", .atLeast 10 isNameOrDash,
      .literal ".", .atLeast 10 isNameOrDash]⟩,
  ⟨"private key".toList, false,
    [.literal "-----BEGIN ",
      .optional (["RSA ", "EC ", "DSA ", "OPENSSH ", "PGP "].map String.toList),
      .literal "PRIVATE KEY", .optional [" BLOCK".toList], .literal "-----"]⟩]

/-- The first format of which the text holds a credential. -/
def credentialIn? (s : Text) : Option CredentialFormat := credentialFormats.find? (·.isIn s)

end EnvAudit
