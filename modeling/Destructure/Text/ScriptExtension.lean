import Destructure.Text.Script

set_option autoImplicit false

/-! # Script extensions

The scripts in which a character is used. A script is used with its own characters and with some that
several scripts share; the shared ones count neither as common nor as inherited. -/

namespace Destructure.Text.ScriptExtension

/-- The scripts that share characters, by the short name, with the shared characters. -/
def shared : List (String × CodeRanges) := [
  ("adlm",
    .ofText "61F 640"),
  ("arab",
    .ofText "60C 61B 61F 640 64B-655 670 FD3E-FD3F 102E0-102FB"),
  ("beng",
    .ofText "951-952 964-965 1CD0 1CD2 1CD5-1CD6 1CD8 1CE1 1CEA 1CED 1CF2 1CF5-1CF7 A8F1"),
  ("bopo",
    .ofText "3001-3003 3008-3011 3013-301F 302A-302D 3030 3037 30FB FE45-FE46 FF61-FF65"),
  ("bugi",
    .ofText "A9CF"),
  ("buhd",
    .ofText "1735-1736"),
  ("cakm",
    .ofText "9E6-9EF 1040-1049"),
  ("copt",
    .ofText "102E0-102FB"),
  ("cpmn",
    .ofText "10100-10101"),
  ("cprt",
    .ofText "10100-10102 10107-10133 10137-1013F"),
  ("cyrl",
    .ofText "485-486 1DF8 2E43"),
  ("deva",
    .ofText "951-952 964-965 1CD0-1CF6 1CF8-1CF9 20F0 A830-A839"),
  ("dogr",
    .ofText "964-96F A830-A839"),
  ("dupl",
    .ofText "1BCA0-1BCA3"),
  ("geor",
    .ofText "10FB"),
  ("glag",
    .ofText "484 487 2E43 A66F"),
  ("gong",
    .ofText "964-965"),
  ("gonm",
    .ofText "964-965"),
  ("gran",
    .ofText "951-952 964-965 BE6-BF3 1CD0 1CD2-1CD3 1CF2-1CF4 1CF8-1CF9 20F0 1133B 11FD0-11FD1 11FD3"),
  ("grek",
    .ofText "342 345 1DC0-1DC1"),
  ("gujr",
    .ofText "951-952 964-965 A830-A839"),
  ("guru",
    .ofText "951-952 964-965 A830-A839"),
  ("hang",
    .ofText "3001-3003 3008-3011 3013-301F 3030 3037 30FB FE45-FE46 FF61-FF65"),
  ("hani",
    .ofText "3001-3003 3006 3008-3011 3013-301F 302A-302D 3030 3037 303C-303F 30FB 3190-319F 31C0-31E3
     3220-3247 3280-32B0 32C0-32CB 32FF 3358-3370 337B-337F 33E0-33FE A700-A707 FE45-FE46
     FF61-FF65 1D360-1D371 1F250-1F251"),
  ("hano",
    .ofText "1735-1736"),
  ("hira",
    .ofText "3001-3003 3008-3011 3013-301F 3030-3035 3037 303C-303D 3099-309C 30A0 30FB-30FC FE45-FE46
     FF61-FF65 FF70 FF9E-FF9F"),
  ("java",
    .ofText "A9CF"),
  ("kali",
    .ofText "A92E"),
  ("kana",
    .ofText "3001-3003 3008-3011 3013-301F 3030-3035 3037 303C-303D 3099-309C 30A0 30FB-30FC FE45-FE46
     FF61-FF65 FF70 FF9E-FF9F"),
  ("khoj",
    .ofText "AE6-AEF A830-A839"),
  ("knda",
    .ofText "951-952 964-965 1CD0 1CD2 1CDA 1CF2 1CF4 A830-A835"),
  ("kthi",
    .ofText "966-96F A830-A839"),
  ("latn",
    .ofText "363-36F 485-486 951-952 10FB 202F 20F0 A700-A707 A92E"),
  ("limb",
    .ofText "965"),
  ("lina",
    .ofText "10107-10133"),
  ("linb",
    .ofText "10100-10102 10107-10133 10137-1013F"),
  ("mahj",
    .ofText "964-96F A830-A839"),
  ("mand",
    .ofText "640"),
  ("mani",
    .ofText "640"),
  ("mlym",
    .ofText "951-952 964-965 1CDA A830-A832"),
  ("modi",
    .ofText "A830-A839"),
  ("mong",
    .ofText "1802-1803 1805 202F"),
  ("mult",
    .ofText "A66-A6F"),
  ("mymr",
    .ofText "A92E"),
  ("nand",
    .ofText "964-965 CE6-CEF 1CE9 1CF2 1CFA A830-A835"),
  ("nkoo",
    .ofText "60C 61B 61F FD3E-FD3F"),
  ("orya",
    .ofText "951-952 964-965 1CDA 1CF2"),
  ("ougr",
    .ofText "640 10AF2"),
  ("perm",
    .ofText "483"),
  ("phag",
    .ofText "1802-1803 1805"),
  ("phlp",
    .ofText "640"),
  ("rohg",
    .ofText "60C 61B 61F 640 6D4"),
  ("shrd",
    .ofText "951 1CD7 1CD9 1CDC-1CDD 1CE0"),
  ("sind",
    .ofText "964-965 A830-A839"),
  ("sinh",
    .ofText "964-965"),
  ("sogd",
    .ofText "640"),
  ("sylo",
    .ofText "964-965 9E6-9EF"),
  ("syrc",
    .ofText "60C 61B-61C 61F 640 64B-655 670 1DF8 1DFA"),
  ("tagb",
    .ofText "1735-1736"),
  ("takr",
    .ofText "964-965 A830-A839"),
  ("tale",
    .ofText "1040-1049"),
  ("taml",
    .ofText "951-952 964-965 1CDA A8F3 11301 11303 1133B-1133C"),
  ("telu",
    .ofText "951-952 964-965 1CDA 1CF2"),
  ("tglg",
    .ofText "1735-1736"),
  ("thaa",
    .ofText "60C 61B-61C 61F 660-669 FDF2 FDFD"),
  ("tirh",
    .ofText "951-952 964-965 1CF2 A830-A839"),
  ("yezi",
    .ofText "60C 61B 61F 660-669"),
  ("yiii",
    .ofText "3001-3002 3008-3011 3014-301B 30FB FF61-FF65")]

/-- The shared characters of a script, by any of its names. -/
def shared? (names : List String) : Option CodeRanges :=
  (shared.find? fun entry => names.contains entry.1).map (·.2)

/-- Whether a script holds the characters of no script of their own: the common and the inherited
ones. A shared character is neither. -/
def isCatchAll (names : List String) : Bool := names.contains "zyyy" || names.contains "zinh"

end Destructure.Text.ScriptExtension
