import RecordQuery.Pattern.Property.Script

/-! # Script extensions

A character can be used with more scripts than its own. The tables are those of the Unicode
Character Database, version 16.
-/

namespace RecordQuery.Pattern.ScriptExtension

/-- The characters of other scripts that a script uses, under the short name of that script. -/
def table : List NamedClass := [
  ⟨["Adlm"], ["61f 640 204f 2e41"]⟩,
  ⟨["Aghb"], ["304 331 35e"]⟩,
  ⟨["Arab"], ["60c 61b 61f 640 64b-655 670 204f 2e41 fd3e-fd3f 102e0-102fb"]⟩,
  ⟨["Armn"], ["308"]⟩,
  ⟨["Avst"], ["b7 2e30-2e31"]⟩,
  ⟨["Beng"], ["2bc 951-952 964-965 1cd0 1cd2 1cd5-1cd6 1cd8 1ce1 1cea 1ced 1cf2 1cf5-1cf7 a8f1"]⟩,
  ⟨["Bopo"], [
    "2c7 2c9-2cb 2d9 3001-3003 3008-3011 3013-301f 302a-302d 3030 3037 30fb fe45-fe46 ff61-ff65"]⟩,
  ⟨["Bugi"], ["a9cf"]⟩,
  ⟨["Buhd"], ["1735-1736"]⟩,
  ⟨["Cakm"], ["9e6-9ef 1040-1049"]⟩,
  ⟨["Cari"], ["b7 205a 205d 2e31"]⟩,
  ⟨["Cher"], ["300-302 304 30b-30c 323-324 330-331"]⟩,
  ⟨["Copt"], ["b7 300 304-305 307 374-375 2e17 102e0-102fb"]⟩,
  ⟨["Cpmn"], ["10100-10101"]⟩,
  ⟨["Cprt"], ["10100-10102 10107-10133 10137-1013f"]⟩,
  ⟨["Cyrl"], ["2bc 300-302 304~308 30b 311 485-486 1df8 2e43"]⟩,
  ⟨["Deva"], ["2bc 951-952 964-965 1cd0-1cf6 1cf8-1cf9 20f0 a830-a839"]⟩,
  ⟨["Dogr"], ["964-96f a830-a839"]⟩,
  ⟨["Dupl"], ["b7 307-308 30a 323-324 2e3c 1bca0-1bca3"]⟩,
  ⟨["Elba"], ["b7 305"]⟩,
  ⟨["Ethi"], ["30e"]⟩,
  ⟨["Gara"], ["60c 61b 61f"]⟩,
  ⟨["Geor"], ["b7 589 10fb 205a 2e31"]⟩,
  ⟨["Glag"], ["b7 303 305 484 487 589 10fb 205a 2e43 a66f"]⟩,
  ⟨["Gong"], ["b7 964-965"]⟩,
  ⟨["Gonm"], ["964-965"]⟩,
  ⟨["Goth"], ["b7 304-305 308 331"]⟩,
  ⟨["Gran"], [
    "951-952 964-965 be6-bf3 1cd0 1cd2-1cd3 1cf2-1cf4 1cf8-1cf9 20f0 1133b 11fd0-11fd1 11fd3"]⟩,
  ⟨["Grek"], ["b7 300-301 304~308 313 342 345 374 1dc0-1dc1 205d"]⟩,
  ⟨["Gujr"], ["951-952 964-965 a830-a839"]⟩,
  ⟨["Gukh"], ["965"]⟩,
  ⟨["Guru"], ["951-952 964-965 a830-a839"]⟩,
  ⟨["Hang"], ["3001-3003 3008-3011 3013-301f 3030 3037 30fb fe45-fe46 ff61-ff65"]⟩,
  ⟨["Hani"], [
    "b7 2ff0-2fff 3001-3003 3006 3008-3011 3013-301f 302a-302d 3030 3037 303c-303f 30fb",
    "3190-319f 31c0-31e5 31ef 3220-3247 3280-32b0 32c0-32cb 32ff 3358-3370 337b-337f 33e0-33fe",
    "a700-a707 fe45-fe46 ff61-ff65 1d360-1d371 1f250-1f251"]⟩,
  ⟨["Hano"], ["1735-1736"]⟩,
  ⟨["Hebr"], ["307-308"]⟩,
  ⟨["Hira"], [
    "3001-3003 3008-3011 3013-301f 3030-3035 3037 303c-303d 3099-309c 30a0 30fb-30fc fe45-fe46",
    "ff61-ff65 ff70 ff9e-ff9f"]⟩,
  ⟨["Hung"], ["205a 205d 2e31 2e41"]⟩,
  ⟨["Java"], ["a9cf"]⟩,
  ⟨["Kali"], ["a92e"]⟩,
  ⟨["Kana"], [
    "305 323 3001-3003 3008-3011 3013-301f 3030-3035 3037 303c-303d 3099-309c 30a0 30fb-30fc",
    "fe45-fe46 ff61-ff65 ff70 ff9e-ff9f"]⟩,
  ⟨["Khoj"], ["ae6-aef a830-a839"]⟩,
  ⟨["Knda"], ["951-952 964-965 1cd0 1cd2-1cd3 1cda 1cf2 1cf4 a830-a835"]⟩,
  ⟨["Kthi"], ["966-96f 2e31 a830-a839"]⟩,
  ⟨["Latn"], [
    "b7 2bc 2c7 2c9-2cb 2cd 2d7 2d9 300-30e 310-311 313 323-325 32d-32e 330-331 358 35e 363-36f",
    "485-486 951-952 10fb 1df8 202f 20f0 2e17 a700-a707 a92e"]⟩,
  ⟨["Limb"], ["965"]⟩,
  ⟨["Lina"], ["10107-10133"]⟩,
  ⟨["Linb"], ["10100-10102 10107-10133 10137-1013f"]⟩,
  ⟨["Lisu"], ["2bc 2cd 300a-300b"]⟩,
  ⟨["Lyci"], ["205a"]⟩,
  ⟨["Lydi"], ["b7 2e31"]⟩,
  ⟨["Mahj"], ["b7 964-96f a830-a839"]⟩,
  ⟨["Mand"], ["640"]⟩,
  ⟨["Mani"], ["640"]⟩,
  ⟨["Mero"], ["205d"]⟩,
  ⟨["Mlym"], ["951-952 964-965 1cda 1cf2 a830-a832"]⟩,
  ⟨["Modi"], ["a830-a839"]⟩,
  ⟨["Mong"], ["1802-1803 1805 202f 3001-3002 3008-300b"]⟩,
  ⟨["Mult"], ["a66-a6f"]⟩,
  ⟨["Mymr"], ["a92e"]⟩,
  ⟨["Nand"], ["951 964-965 ce6-cef 1ce9 1cf2 1cfa a830-a835"]⟩,
  ⟨["Newa"], ["951-952 1cd5 1cd7-1cd8 1ce2 1ce9~1ced"]⟩,
  ⟨["Nkoo"], ["60c 61b 61f fd3e-fd3f"]⟩,
  ⟨["Onao"], ["964-965"]⟩,
  ⟨["Orkh"], ["205a 2e30"]⟩,
  ⟨["Orya"], ["951-952 964-965 1cda 1cf2"]⟩,
  ⟨["Osge"], ["301 304 30b 358"]⟩,
  ⟨["Ougr"], ["640 10af2"]⟩,
  ⟨["Perm"], ["b7 300 306-308 313 483"]⟩,
  ⟨["Phag"], ["1802-1803 1805 202f 3002"]⟩,
  ⟨["Phlp"], ["640"]⟩,
  ⟨["Rohg"], ["60c 61b 61f 640 6d4"]⟩,
  ⟨["Runr"], ["16eb-16ed"]⟩,
  ⟨["Samr"], ["2e31"]⟩,
  ⟨["Shaw"], ["b7"]⟩,
  ⟨["Shrd"], ["951 1cd7 1cd9 1cdc-1cdd 1ce0 1cea 1ced a830-a835 a838"]⟩,
  ⟨["Sind"], ["964-965 a830-a839"]⟩,
  ⟨["Sinh"], ["964-965 1cf2"]⟩,
  ⟨["Sogd"], ["640"]⟩,
  ⟨["Sunu"], ["300-301 303 30d 310 32d 331"]⟩,
  ⟨["Sylo"], ["964-965 9e6-9ef"]⟩,
  ⟨["Syrc"], [
    "303-304 307-308 30a 323-325 32d-32e 330-331 60c 61b-61c 61f 640 64b-655 670 1df8 1dfa"]⟩,
  ⟨["Tagb"], ["1735-1736"]⟩,
  ⟨["Takr"], ["964-965 a830-a839"]⟩,
  ⟨["Tale"], ["300-301 307-308 30c 1040-1049"]⟩,
  ⟨["Taml"], ["951-952 964-965 1cda a8f3 11301 11303 1133b-1133c"]⟩,
  ⟨["Tang"], ["2ff0-2fff 31ef"]⟩,
  ⟨["Telu"], ["951-952 964-965 1cd5-1cd6 1cd8 1cda 1cf2"]⟩,
  ⟨["Tfng"], ["302 304 306-309 323"]⟩,
  ⟨["Tglg"], ["1735-1736"]⟩,
  ⟨["Thaa"], ["60c 61b-61c 61f 660-669 fdf2 fdfd"]⟩,
  ⟨["Thai"], ["2bc 2d7 303 331"]⟩,
  ⟨["Tibt"], ["3008-300b"]⟩,
  ⟨["Tirh"], ["951-952 964-965 1cd5 1ce2 1cf2 a830-a839"]⟩,
  ⟨["Todr"], ["301 304 307 311 313 35e"]⟩,
  ⟨["Toto"], ["2bc"]⟩,
  ⟨["Tutg"], ["ce6-cef 1cf2 1cf4 a830-a835 a8f1"]⟩,
  ⟨["Yezi"], ["60c 61b 61f 660-669"]⟩,
  ⟨["Yiii"], ["3001-3002 3008-3011 3014-301b 30fb ff61-ff65"]⟩]

/-- The characters that are used with several scripts. -/
def shared : CharSet := .unions (table.map NamedClass.set)

/-- The characters that the script with a name uses. What several scripts share is neither common
nor inherited. -/
def find? (name : List Char) : Option CharSet := do
  let script ← Script.table.find? (hasName name ·.names)
  if script.names.contains "Common" || script.names.contains "Inherited" then
    return script.set.diff shared
  else
    let more := table.filter fun row => row.names.any script.names.contains
    return .unions (script.set :: more.map NamedClass.set)

end RecordQuery.Pattern.ScriptExtension
