import EnvAudit.Unicode.Derived

/-!
# Letters of texts

Texts change their letter case by a newer release of the Unicode standard than the one whose
properties patterns ask for, and the names in patterns are spelled by the newer one too.  Each set
here is the older set with what the newer release added.
-/

namespace EnvAudit.Unicode

/-- Characters with a letter case.  The newer release took the case from one letter. -/
def casedInText : CharSet :=
  .union (.diff cased (.ofHex "295")) (.ofHex "A7CE-A7CF A7D2 A7D4 A7F1 16EA0-16EB8 16EBB-16ED3")

/-- Characters that the rules of letter case pass over. -/
def passedOverInText : CharSet :=
  .union caseIgnorable
    (.ofHex "1ACF-1ADD 1AE0-1AEB A7F1 10EC5 10EFA-10EFB 11B60 11B62-11B64 11B66 11DD9 16FF2-16FF3
      1E6E3 1E6E6 1E6EE-1E6EF 1E6F5 1E6FF")

def letterOfName : CharSet :=
  .union alphabetic
    (.ofHex "88F C5C CDC A7CE-A7CF A7D2 A7D4 A7F1 10940-10959 10EC5-10EC7 10EFA-10EFB 11B60-11B67
      11DB0-11DDB 16EA0-16EB8 16EBB-16ED3 16FF2-16FF6 187F8-187FF 18D09-18D1E 18D80-18DF2
      1E6C0-1E6DE 1E6E0-1E6F5 1E6FE-1E6FF 2B73A-2B73F 2CEA2-2CEAD 323B0-33479")

def numberOfName : CharSet := .union number (.ofHex "11DE0-11DE9 16FF4-16FF6")

end EnvAudit.Unicode
