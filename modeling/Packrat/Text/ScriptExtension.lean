import Packrat.Text.Script

/-! Characters that several scripts use. Those of no table here belong to their script alone. -/
namespace Packrat.Text

/-- Characters that the scripts of the given codes use, and no other script. -/
structure SharedCharacters where
  set : CodeSet
  codes : List String

def sharedCharacters : List SharedCharacters := [
  ⟨⟨#[0xb7, 0xb8]⟩, ["avst", "cari", "copt", "dupl", "elba", "geor", "glag", "goth", "grek", "gong",
  "hani", "latn", "lydi", "mahj", "perm", "shaw"]⟩,
  ⟨⟨#[0x2bc, 0x2bd]⟩, ["beng", "cyrl", "deva", "latn", "lisu", "thai", "toto"]⟩,
  ⟨⟨#[0x2c7, 0x2c8, 0x2c9, 0x2cc, 0x2d9, 0x2da]⟩, ["bopo", "latn"]⟩,
  ⟨⟨#[0x2cd, 0x2ce]⟩, ["latn", "lisu"]⟩,
  ⟨⟨#[0x2d7, 0x2d8]⟩, ["latn", "thai"]⟩,
  ⟨⟨#[0x300, 0x301]⟩, ["cher", "copt", "cyrl", "grek", "latn", "perm", "sunu", "tale"]⟩,
  ⟨⟨#[0x301, 0x302]⟩, ["cher", "cyrl", "grek", "latn", "osge", "sunu", "tale", "todr"]⟩,
  ⟨⟨#[0x302, 0x303]⟩, ["cher", "cyrl", "latn", "tfng"]⟩,
  ⟨⟨#[0x303, 0x304]⟩, ["glag", "latn", "sunu", "syrc", "thai"]⟩,
  ⟨⟨#[0x304, 0x305]⟩, ["aghb", "cher", "copt", "cyrl", "goth", "grek", "latn", "osge", "syrc",
  "tfng", "todr"]⟩,
  ⟨⟨#[0x305, 0x306]⟩, ["copt", "elba", "glag", "goth", "kana", "latn"]⟩,
  ⟨⟨#[0x306, 0x307]⟩, ["cyrl", "grek", "latn", "perm"]⟩,
  ⟨⟨#[0x307, 0x308]⟩, ["copt", "dupl", "hebr", "latn", "perm", "syrc", "tale", "tfng", "todr"]⟩,
  ⟨⟨#[0x308, 0x309]⟩, ["armn", "cyrl", "dupl", "goth", "grek", "hebr", "latn", "perm", "syrc",
  "tale"]⟩,
  ⟨⟨#[0x309, 0x30a]⟩, ["latn", "tfng"]⟩,
  ⟨⟨#[0x30a, 0x30b]⟩, ["dupl", "latn", "syrc"]⟩,
  ⟨⟨#[0x30b, 0x30c]⟩, ["cher", "cyrl", "latn", "osge"]⟩,
  ⟨⟨#[0x30c, 0x30d]⟩, ["cher", "latn", "tale"]⟩,
  ⟨⟨#[0x30d, 0x30e, 0x310, 0x311]⟩, ["latn", "sunu"]⟩,
  ⟨⟨#[0x30e, 0x30f]⟩, ["ethi", "latn"]⟩,
  ⟨⟨#[0x311, 0x312]⟩, ["cyrl", "latn", "todr"]⟩,
  ⟨⟨#[0x313, 0x314]⟩, ["grek", "latn", "perm", "todr"]⟩,
  ⟨⟨#[0x320, 0x321, 0x325, 0x326, 0x32e, 0x32f]⟩, ["latn", "syrc"]⟩,
  ⟨⟨#[0x323, 0x324]⟩, ["cher", "dupl", "kana", "latn", "syrc"]⟩,
  ⟨⟨#[0x324, 0x325]⟩, ["cher", "dupl", "latn", "syrc"]⟩,
  ⟨⟨#[0x32d, 0x32e]⟩, ["latn", "sunu", "syrc"]⟩,
  ⟨⟨#[0x330, 0x331]⟩, ["cher", "latn", "syrc"]⟩,
  ⟨⟨#[0x331, 0x332]⟩, ["aghb", "cher", "goth", "latn", "sunu", "thai"]⟩,
  ⟨⟨#[0x342, 0x343, 0x345, 0x346, 0x1dc0, 0x1dc2]⟩, ["grek"]⟩,
  ⟨⟨#[0x358, 0x359]⟩, ["latn", "osge"]⟩,
  ⟨⟨#[0x35e, 0x35f]⟩, ["aghb", "latn", "todr"]⟩,
  ⟨⟨#[0x363, 0x370]⟩, ["latn"]⟩,
  ⟨⟨#[0x374, 0x376]⟩, ["copt", "grek"]⟩,
  ⟨⟨#[0x483, 0x484]⟩, ["cyrl", "perm"]⟩,
  ⟨⟨#[0x484, 0x485, 0x487, 0x488, 0x2e43, 0x2e44, 0xa66f, 0xa670]⟩, ["cyrl", "glag"]⟩,
  ⟨⟨#[0x485, 0x487]⟩, ["cyrl", "latn"]⟩,
  ⟨⟨#[0x589, 0x58a]⟩, ["armn", "geor", "glag"]⟩,
  ⟨⟨#[0x60c, 0x60d, 0x61b, 0x61c]⟩, ["arab", "gara", "rohg", "nkoo", "syrc", "thaa", "yezi"]⟩,
  ⟨⟨#[0x61c, 0x61d]⟩, ["arab", "syrc", "thaa"]⟩,
  ⟨⟨#[0x61f, 0x620]⟩, ["adlm", "arab", "gara", "rohg", "nkoo", "syrc", "thaa", "yezi"]⟩,
  ⟨⟨#[0x640, 0x641]⟩, ["adlm", "arab", "rohg", "mand", "mani", "ougr", "phlp", "sogd", "syrc"]⟩,
  ⟨⟨#[0x64b, 0x656, 0x670, 0x671]⟩, ["arab", "syrc"]⟩,
  ⟨⟨#[0x660, 0x66a]⟩, ["arab", "thaa", "yezi"]⟩,
  ⟨⟨#[0x6d4, 0x6d5]⟩, ["arab", "rohg"]⟩,
  ⟨⟨#[0x951, 0x952]⟩, ["beng", "deva", "gran", "gujr", "guru", "knda", "latn", "mlym", "orya",
  "shrd", "taml", "telu", "tirh"]⟩,
  ⟨⟨#[0x952, 0x953]⟩, ["beng", "deva", "gran", "gujr", "guru", "knda", "latn", "mlym", "orya",
  "taml", "telu", "tirh"]⟩,
  ⟨⟨#[0x964, 0x965]⟩, ["beng", "deva", "dogr", "gran", "gujr", "gong", "guru", "knda", "sind",
  "mahj", "mlym", "gonm", "nand", "onao", "orya", "sinh", "sylo", "takr", "taml", "telu", "tirh"]⟩,
  ⟨⟨#[0x965, 0x966]⟩, ["beng", "deva", "dogr", "gran", "gujr", "gong", "guru", "gukh", "knda",
  "sind", "limb", "mahj", "mlym", "gonm", "nand", "onao", "orya", "sinh", "sylo", "takr", "taml",
  "telu", "tirh"]⟩,
  ⟨⟨#[0x966, 0x970]⟩, ["deva", "dogr", "kthi", "mahj"]⟩,
  ⟨⟨#[0x9e6, 0x9f0]⟩, ["beng", "cakm", "sylo"]⟩,
  ⟨⟨#[0xa66, 0xa70]⟩, ["guru", "mult"]⟩,
  ⟨⟨#[0xae6, 0xaf0]⟩, ["gujr", "khoj"]⟩,
  ⟨⟨#[0xbe6, 0xbf4, 0x11301, 0x11302, 0x11303, 0x11304, 0x1133b, 0x1133d, 0x11fd0, 0x11fd2, 0x11fd3,
  0x11fd4]⟩, ["gran", "taml"]⟩,
  ⟨⟨#[0xce6, 0xcf0]⟩, ["knda", "nand", "tutg"]⟩,
  ⟨⟨#[0x1040, 0x104a]⟩, ["cakm", "mymr", "tale"]⟩,
  ⟨⟨#[0x10fb, 0x10fc]⟩, ["geor", "glag", "latn"]⟩,
  ⟨⟨#[0x16eb, 0x16ee]⟩, ["runr"]⟩,
  ⟨⟨#[0x1735, 0x1737]⟩, ["buhd", "hano", "tglg", "tagb"]⟩,
  ⟨⟨#[0x1802, 0x1804, 0x1805, 0x1806]⟩, ["mong", "phag"]⟩,
  ⟨⟨#[0x1cd0, 0x1cd1, 0x1cd2, 0x1cd3]⟩, ["beng", "deva", "gran", "knda"]⟩,
  ⟨⟨#[0x1cd1, 0x1cd2, 0x1cd4, 0x1cd5, 0x1cdb, 0x1cdc, 0x1cde, 0x1ce0, 0x1ce2, 0x1ce9, 0x1ceb,
  0x1ced, 0x1cee, 0x1cf2]⟩, ["deva"]⟩,
  ⟨⟨#[0x1cd3, 0x1cd4]⟩, ["deva", "gran", "knda"]⟩,
  ⟨⟨#[0x1cd5, 0x1cd7, 0x1cd8, 0x1cd9, 0x1ce1, 0x1ce2, 0x1cea, 0x1ceb, 0x1ced, 0x1cee, 0x1cf5,
  0x1cf7]⟩, ["beng", "deva"]⟩,
  ⟨⟨#[0x1cd7, 0x1cd8, 0x1cd9, 0x1cda, 0x1cdc, 0x1cde, 0x1ce0, 0x1ce1]⟩, ["deva", "shrd"]⟩,
  ⟨⟨#[0x1cda, 0x1cdb]⟩, ["deva", "knda", "mlym", "orya", "taml", "telu"]⟩,
  ⟨⟨#[0x1ce9, 0x1cea]⟩, ["deva", "nand"]⟩,
  ⟨⟨#[0x1cf2, 0x1cf3]⟩, ["beng", "deva", "gran", "knda", "mlym", "nand", "orya", "sinh", "telu",
  "tirh", "tutg"]⟩,
  ⟨⟨#[0x1cf3, 0x1cf4, 0x1cf8, 0x1cfa]⟩, ["deva", "gran"]⟩,
  ⟨⟨#[0x1cf4, 0x1cf5]⟩, ["deva", "gran", "knda", "tutg"]⟩,
  ⟨⟨#[0x1cf7, 0x1cf8]⟩, ["beng"]⟩,
  ⟨⟨#[0x1cfa, 0x1cfb]⟩, ["nand"]⟩,
  ⟨⟨#[0x1df8, 0x1df9]⟩, ["cyrl", "latn", "syrc"]⟩,
  ⟨⟨#[0x1dfa, 0x1dfb]⟩, ["syrc"]⟩,
  ⟨⟨#[0x202f, 0x2030]⟩, ["latn", "mong", "phag"]⟩,
  ⟨⟨#[0x204f, 0x2050]⟩, ["adlm", "arab"]⟩,
  ⟨⟨#[0x205a, 0x205b]⟩, ["cari", "geor", "glag", "lyci", "hung", "orkh"]⟩,
  ⟨⟨#[0x205d, 0x205e]⟩, ["cari", "grek", "mero", "hung"]⟩,
  ⟨⟨#[0x20f0, 0x20f1]⟩, ["deva", "gran", "latn"]⟩,
  ⟨⟨#[0x2e17, 0x2e18]⟩, ["copt", "latn"]⟩,
  ⟨⟨#[0x2e30, 0x2e31]⟩, ["avst", "orkh"]⟩,
  ⟨⟨#[0x2e31, 0x2e32]⟩, ["avst", "cari", "geor", "kthi", "lydi", "hung", "samr"]⟩,
  ⟨⟨#[0x2e3c, 0x2e3d, 0x1bca0, 0x1bca4]⟩, ["dupl"]⟩,
  ⟨⟨#[0x2e41, 0x2e42]⟩, ["adlm", "arab", "hung"]⟩,
  ⟨⟨#[0x2ff0, 0x3000, 0x31ef, 0x31f0]⟩, ["hani", "tang"]⟩,
  ⟨⟨#[0x3001, 0x3002]⟩, ["bopo", "hani", "hang", "hira", "kana", "mong", "yiii"]⟩,
  ⟨⟨#[0x3002, 0x3003]⟩, ["bopo", "hani", "hang", "hira", "kana", "mong", "phag", "yiii"]⟩,
  ⟨⟨#[0x3003, 0x3004, 0x3013, 0x3014, 0x301c, 0x3020, 0x3030, 0x3031, 0x3037, 0x3038, 0xfe45,
  0xfe47]⟩, ["bopo", "hani", "hang", "hira", "kana"]⟩,
  ⟨⟨#[0x3006, 0x3007, 0x303e, 0x3040, 0x3190, 0x31a0, 0x31c0, 0x31e6, 0x3220,
  0x3248, 0x3280, 0x32b1, 0x32c0, 0x32cc, 0x32ff, 0x3300, 0x3358, 0x3371, 0x337b, 0x3380, 0x33e0,
  0x33ff, 0x1d360, 0x1d372, 0x1f250, 0x1f252]⟩, ["hani"]⟩,
  ⟨⟨#[0x3008, 0x300a]⟩, ["bopo", "hani", "hang", "hira", "kana", "mong", "tibt", "yiii"]⟩,
  ⟨⟨#[0x300a, 0x300c]⟩, ["bopo", "hani", "hang", "hira", "kana", "lisu", "mong", "tibt", "yiii"]⟩,
  ⟨⟨#[0x300c, 0x3012, 0x3014, 0x301c, 0x30fb, 0x30fc, 0xff61, 0xff66]⟩, ["bopo", "hani", "hang",
  "hira", "kana", "yiii"]⟩,
  ⟨⟨#[0x302a, 0x302e]⟩, ["bopo", "hani"]⟩,
  ⟨⟨#[0x3031, 0x3036, 0x3099, 0x309d, 0x30a0, 0x30a1, 0x30fc, 0x30fd, 0xff70, 0xff71, 0xff9e,
  0xffa0]⟩, ["hira", "kana"]⟩,
  ⟨⟨#[0x303c, 0x303e]⟩, ["hani", "hira", "kana"]⟩,
  ⟨⟨#[0xa700, 0xa708]⟩, ["hani", "latn"]⟩,
  ⟨⟨#[0xa830, 0xa833]⟩, ["deva", "dogr", "gujr", "guru", "kthi", "knda", "khoj", "sind", "mahj",
  "mlym", "modi", "nand", "shrd", "takr", "tirh", "tutg"]⟩,
  ⟨⟨#[0xa833, 0xa836]⟩, ["deva", "dogr", "gujr", "guru", "kthi", "knda", "khoj", "sind", "mahj",
  "modi", "nand", "shrd", "takr", "tirh", "tutg"]⟩,
  ⟨⟨#[0xa836, 0xa838, 0xa839, 0xa83a]⟩, ["deva", "dogr", "gujr", "guru", "kthi", "khoj", "sind",
  "mahj", "modi", "takr", "tirh"]⟩,
  ⟨⟨#[0xa838, 0xa839]⟩, ["deva", "dogr", "gujr", "guru", "kthi", "khoj", "sind", "mahj", "modi",
  "shrd", "takr", "tirh"]⟩,
  ⟨⟨#[0xa8f1, 0xa8f2]⟩, ["beng", "deva", "tutg"]⟩,
  ⟨⟨#[0xa8f3, 0xa8f4]⟩, ["deva", "taml"]⟩,
  ⟨⟨#[0xa92e, 0xa92f]⟩, ["kali", "latn", "mymr"]⟩,
  ⟨⟨#[0xa9cf, 0xa9d0]⟩, ["bugi", "java"]⟩,
  ⟨⟨#[0xfd3e, 0xfd40]⟩, ["arab", "nkoo"]⟩,
  ⟨⟨#[0xfdf2, 0xfdf3, 0xfdfd, 0xfdfe]⟩, ["arab", "thaa"]⟩,
  ⟨⟨#[0x10100, 0x10102]⟩, ["cprt", "cpmn", "linb"]⟩,
  ⟨⟨#[0x10102, 0x10103, 0x10137, 0x10140]⟩, ["cprt", "linb"]⟩,
  ⟨⟨#[0x10107, 0x10134]⟩, ["cprt", "lina", "linb"]⟩,
  ⟨⟨#[0x102e0, 0x102fc]⟩, ["arab", "copt"]⟩,
  ⟨⟨#[0x10af2, 0x10af3]⟩, ["mani", "ougr"]⟩]

def allShared : CodeSet := CodeSet.unions (sharedCharacters.map (·.set))

def Script.extended (s : Script) : CodeSet :=
  (s.set.diff allShared).union
    (CodeSet.unions ((sharedCharacters.filter fun e => s.names.head?.any e.codes.contains).map (·.set)))

end Packrat.Text
