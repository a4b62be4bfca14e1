import Reflash.Unicode.CodeSet

/-!
# Unicode.Script — the scripts that characters belong to

Each character belongs to one script; the extensions of a script are the characters that texts in it
also use.  The tables are those of Unicode 16.

* `Unicode.scripts` — the scripts, with their names.
-/

namespace Reflash
namespace Unicode

/-- A script: its names, the runs of its characters, and those of its extensions if they differ. -/
structure Script where
  names : List String
  runs : String
  extensionRuns : Option String := none

namespace Script

def members (s : Script) : CodeSet :=
  .ofRuns s.runs

def extensions (s : Script) : CodeSet :=
  .ofRuns (s.extensionRuns.getD s.runs)

end Script

def scripts : List Script := [
  ⟨["Adlam", "adlm"], "61f 1 20 1 1a0e 1 df1 1 1babe 4c 4 a 4 2", some "1e900 4c 4 a 4 2"⟩,
  ⟨["Ahom"], "11700 1b 2 f 4 17", none⟩,
  ⟨["Anatolian_Hieroglyphs", "hluw"], "14400 247", none⟩,
  ⟨["Arabic", "arab"],
    "600 5 1 d7 1 22 50 30 f0 1f 1 2 5 4b 1 1d 174f 1 df1 1 cd0e 73 10 1bd 2 36 7 1 20 10 70 5 1 87
    3e3 1c b64 1f 43 3 37 4 df00 4 1 1b 1 2 1 1 2 1 1 a 1 4 1 1 1 1 6 1 4 1 1 1 1 1 1 3 1 2 1 1 2
    1 1 1 1 1 1 1 1 1 1 2 1 1 2 4 1 7 1 4 1 4 1 1 1 a 1 11 5 3 1 5 1 11 34 2",
    some "600 5 1 6 1 e 1 3 1 20 1 a b 1a 1 6c 1 22 50 30 f0 1f 1 2 5 4b 1 1d f250 73 10 16b 2
      50 2 36 7 1 20 10 70 5 1 87 f63 1f 43 3 37 4 df00 4 1 1b 1 2 1 1 2 1 1 a 1 4 1 1 1 1 6 1 4
      1 1 1 1 1 1 3 1 2 1 1 2 1 1 1 1 1 1 1 1 1 1 2 1 1 2 4 1 7 1 4 1 4 1 1 1 a 1 11 5 3 1 5 1
      11 34 2"⟩,
  ⟨["Armenian", "armn"], "308 1 228 26 2 32 2 3 f583 5", some "531 26 2 32 2 3 f583 5"⟩,
  ⟨["Avestan", "avst"], "b7 1 2d78 2 dcce 36 3 7", some "10b00 36 3 7"⟩,
  ⟨["Balinese", "bali"], "1b00 4d 1 32", none⟩,
  ⟨["Bamum", "bamu"], "a6a0 58 c108 239", none⟩,
  ⟨["Bassa_Vah", "bass"], "16ad0 1e 2 6", none⟩,
  ⟨["Batak", "batk"], "1bc0 34 8 4", none⟩,
  ⟨["Bengali", "beng"],
    "2bc 1 694 2 11 2 1a 4 1 8 2 2 2 16 1 7 1 1 3 4 2 9 2 2 2 4 8 1 4 2 1 5 2 19 12d1 1 1 1 2 2 1 1
    8 1 8 1 2 1 4 1 2 3 8bf9 1",
    some "980 4 1 8 2 2 2 16 1 7 1 1 3 4 2 9 2 2 2 4 8 1 4 2 1 5 2 19"⟩,
  ⟨["Bhaiksuki", "bhks"], "11c00 9 1 2d 1 e a 1d", none⟩,
  ⟨["Bopomofo", "bopo"],
    "2c7 1 1 3 d 1 10 2 2d15 3 4 a 1 d a 4 2 1 6 1 c3 1 9 2b 70 20 cc85 2 11a 5",
    some "2ea 2 2e19 2b 70 20"⟩,
  ⟨["Brahmi", "brah"], "11000 4e 4 24 9 1", none⟩,
  ⟨["Braille", "brai"], "2800 100", none⟩,
  ⟨["Buginese", "bugi"], "1a00 1c 2 2 8faf 1", some "1a00 1c 2 2"⟩,
  ⟨["Buhid", "buhd"], "1735 2 9 14", some "1740 14"⟩,
  ⟨["Canadian_Aboriginal", "cans"], "1400 280 230 46 101ba 10", none⟩,
  ⟨["Carian", "cari"], "b7 1 1fa2 1 2 1 dd3 1 d46e 31", some "102a0 31"⟩,
  ⟨["Caucasian_Albanian", "aghb"], "304 1 2c 1 2c 1 101d1 34 b 1", some "10530 34 b 1"⟩,
  ⟨["Chakma", "cakm"], "9e6 a 650 a 100b6 35 1 12", some "11100 35 1 12"⟩,
  ⟨["Cham"], "aa00 37 9 e 2 a 2 4", none⟩,
  ⟨["Cherokee", "cher"], "300 3 1 1 6 2 16 2 b 2 106e 56 2 6 9772 50", some "13a0 56 2 6 9772 50"⟩,
  ⟨["Chorasmian", "chrs"], "10fb0 1c", none⟩,
  ⟨["Common", "zyyy"],
    "0 41 1a 6 1a 2f 1 c 1 2 1 5 17 1 1f 1 1c1 3 1 a 1 1 3 1 1 9 1 1 1 6 5 5 2 14 7e 1 6 1 1 1 27d
    1 d7 1 204 1 55c 1 195 4 1027 c 2 21 1 1f 1 a 1 2 1 7 1 b 3 b 1 f 11 21 3f 26 1 3 2 6 1 1b 1
    11 29 3 4 29a 16 b 15 3a0 100 274 2 20 1 69 200 17 1 18 2 a 1 4 1 1 1 1a 1a2 1 3 1 d 1 d 1 15
    1 211 18 1f 1 31 f c 4 a1 a 5 60 1f 1 19c0 40 5908 1a 66 3 3d0 1 e 2 52a4 a 16 15 2 c 1 13 1 4
    93 1 1 20 1a 6 1a 6 7f 7 1 7 a 5 192 d 33 2d ca03 fa 6 1b4 9c 74 3c f6 a 27 2 3e 3 11 8 2 7 1e
    4 3d d5 14 c 14 c 57 1b 7 87 55 1 47 1 2 2 1 2 2 2 4 1 c 1 1 1 7 1 41 1 4 2 8 1 7 1 1c 1 4 1 5
    1 1 3 7 1 154 2 124 2 32 1471 44 4c 3d 2c2 2c 4 64 c f 2 f 1 f 1 25 a ae 38 1a 1 2 d 2c 4 9 17
    6 9a 3d8 4 11 3 d 3 77 4 5f 6 c 4 1 f c 4 38 8 a 6 28 8 1e 2 c 4 2 3e 154 c e 2 d 3 a 5 38 7 f
    2 b 6 9 7 93 1 66 c0407 1 1e 60",
    some "0 41 1a 6 1a 2f 1 f 1 5 17 1 1f 1 1c1 27 5 5 2 14 74 1 9 1 6 1 1 1 27d 1 6 1 e 1 3 1
      20 1 9c 1 204 1 81 2 4d9 1 195 4 122 1 5ef 3 47 2 cb 2 1 1 4cd 1 d 1 7 4 1 6 1 3 2 1 305 c
      2 57 1 b 3 b 1 f 11 21 3f 26 1 3 2 6 1 1b 1 11 29 3 4 29a 16 b 15 3a0 100 274 2 20 1 69
      200 5e 192 15 1 1 1 19 f 8 4 4 5b 2 3 1 5a 2 93 10 20 26 9 1 30 40 1f 51 2f 1 58 a8 19c0
      40 5900 22 66 3 a5 a f4 1 a0 1 18b 1 e 2 51d2 2 d0 a 16 23 1 13 1 4 93 1 1 20 1a 6 1a b a
      1 2d 2 40 7 1 7 a 5 102 3 4 2d 3 9 50 d 33 2d e4 1b b9a4 4 f5c fa 6 1b4 9c 74 3c f6 a 27 2
      3e 3 11 8 2 7 1e 4 3d d5 14 c 14 c 57 9 19 87 55 1 47 1 2 2 1 2 2 2 4 1 c 1 1 1 7 1 41 1 4
      2 8 1 7 1 1c 1 4 1 5 1 1 3 7 1 154 2 124 2 32 1471 44 4c 3d 2c2 2c 4 64 c f 2 f 1 f 1 25 a
      ae 38 1a 1 2 d 2c 4 9 7 2 e 6 9a 3d8 4 11 3 d 3 77 4 5f 6 c 4 1 f c 4 38 8 a 6 28 8 1e 2 c
      4 2 3e 154 c e 2 d 3 a 5 38 7 f 2 b 6 9 7 93 1 66 c0407 1 1e 60"⟩,
  ⟨["Coptic", "copt", "qaac"],
    "b7 1 248 1 3 2 1 1 6c 2 6c e 2890 74 5 7 117 1 d4c8 1c",
    some "3e2 e 2890 74 5 7"⟩,
  ⟨["Cuneiform", "xsux"], "12000 39a 66 6f 1 5 b c4", none⟩,
  ⟨["Cypriot", "cprt"],
    "10100 3 4 2d 3 9 6c0 6 2 1 1 2c 1 2 3 1 2 1",
    some "10800 6 2 1 1 2c 1 2 3 1 2 1"⟩,
  ⟨["Cypro_Minoan", "cpmn"], "10100 2 2e8e 63", some "12f90 63"⟩,
  ⟨["Cyrillic", "cyrl"],
    "2bc 1 43 3 1 1 1 1 1 1 2 1 5 1 ee 130 1750 b a0 1 4c 1 7f 1 fe7 20 43 1 77fc 60 578e 2 e200 3e
    21 1",
    some "400 85 2 a9 1750 b a0 1 4c 1 1067 20 7840 60 578e 2 e200 3e 21 1"⟩,
  ⟨["Deseret", "dsrt"], "10400 50", none⟩,
  ⟨["Devanagari", "deva"],
    "2bc 1 643 53 2 2b 1350 27 1 2 3f6 1 873f a a6 20 7200 a",
    some "900 51 4 f 2 1a 9f60 20 7200 a"⟩,
  ⟨["Dives_Akuru", "diak"], "11900 7 2 1 2 8 1 2 1 1e 1 2 2 c 9 a", none⟩,
  ⟨["Dogra", "dogr"], "964 c 9ec0 a 6fc6 3c", some "11800 3c"⟩,
  ⟨["Duployan", "dupl"],
    "b7 1 24f 2 1 1 18 2 2b17 1 18dc3 6b 5 d 3 9 7 a 2 8",
    some "1bc00 6b 5 d 3 9 7 a 2 4"⟩,
  ⟨["Egyptian_Hieroglyphs", "egyp"], "13000 456 a f9b", none⟩,
  ⟨["Elbasan", "elba"], "b7 1 24d 1 101fa 28", some "10500 28"⟩,
  ⟨["Elymaic", "elym"], "10fe0 17", none⟩,
  ⟨["Ethiopic", "ethi"],
    "30e 1 ef1 49 1 4 2 7 1 1 1 4 2 29 1 4 2 21 1 4 2 7 1 1 1 4 2 f 1 39 1 4 2 43 2 20 3 1a 19e6 17
    9 7 1 7 1 7 1 7 1 7 1 7 1 7 1 7 7d22 6 2 6 2 6 9 7 1 7 13cb1 7 1 4 1 2 1 f",
    some "1200 49 1 4 2 7 1 1 1 4 2 29 1 4 2 21 1 4 2 7 1 1 1 4 2 f 1 39 1 4 2 43 2 20 3 1a 19e6
      17 9 7 1 7 1 7 1 7 1 7 1 7 1 7 1 7 7d22 6 2 6 2 6 9 7 1 7 13cb1 7 1 4 1 2 1 f"⟩,
  ⟨["Garay", "gara"], "60c 1 e 1 3 1 10720 26 3 1d 8 2", some "10d40 26 3 1d 8 2"⟩,
  ⟨["Georgian", "geor"],
    "b7 1 4d1 1 b16 26 1 1 5 1 2 30 b90 2b 2 3 39a 1 ca5 26 1 1 5 1 103 1",
    some "10a0 26 1 1 5 1 2 2b 1 4 b90 2b 2 3 1040 26 1 1 5 1"⟩,
  ⟨["Glagolitic", "glag"],
    "b7 1 24b 1 1 1 17e 1 2 1 101 1 b71 1 f5e 1 ba5 60 1e3 1 782b 1 13990 7 1 11 2 7 1 2 1 5",
    some "2c00 60 1b3a0 7 1 11 2 7 1 2 1 5"⟩,
  ⟨["Gothic", "goth"], "b7 1 24c 2 2 1 28 1 fffe 1b", some "10330 1b"⟩,
  ⟨["Grantha", "gran"],
    "951 2 11 2 280 e 10dc 1 1 2 1e 3 3 2 3f6 1 f20f 4 1 8 2 2 2 16 1 7 1 2 1 5 1 a 2 2 2 3 2 1 6 1
    5 7 2 7 3 5 c5b 2 1 1",
    some "11300 4 1 8 2 2 2 16 1 7 1 2 1 5 2 9 2 2 2 3 2 1 6 1 5 7 2 7 3 5"⟩,
  ⟨["Greek", "grek"],
    "b7 1 248 2 2 1 1 1 1 1 a 1 2e 1 2 1 2a 8 2 4 1 1 4 1 1 1 1 3 1 1 1 14 1 3f e 10 1926 5 32 5 4
    5 54 3 13e 16 2 6 2 26 2 6 2 8 1 1 1 1 1 1 1 1f 2 35 1 f 1 e 2 6 1 13 2 3 1 9 5e 1 c8 1 8a3e 1
    55da 4f 11 1 d05f 46",
    some "370 4 1 3 2 4 1 1 4 1 1 1 1 3 1 1 1 14 1 3f e 10 1926 5 32 5 4 5 54 1 140 16 2 6 2 26
      2 6 2 8 1 1 1 1 1 1 1 1f 2 35 1 f 1 e 2 6 1 13 2 3 1 9 127 1 8a3e 1 55da 4f 11 1 d05f 46"⟩,
  ⟨["Gujarati", "gujr"],
    "951 2 11 2 11b 3 1 9 1 3 1 16 1 7 1 2 1 5 2 a 1 3 1 3 2 1 f 4 2 c 7 7 9d30 a",
    some "a81 3 1 9 1 3 1 16 1 7 1 2 1 5 2 a 1 3 1 3 2 1 f 4 2 c 7 7"⟩,
  ⟨["Gunjala_Gondi", "gong"],
    "b7 1 8ac 2 113fa 6 1 2 1 25 1 2 1 6 7 a",
    some "11d60 6 1 2 1 25 1 2 1 6 7 a"⟩,
  ⟨["Gurmukhi", "guru"],
    "951 2 11 2 9b 3 1 6 4 2 2 16 1 7 1 2 1 2 1 2 2 1 1 5 4 2 2 3 3 1 7 4 1 1 7 11 9db9 a",
    some "a01 3 1 6 4 2 2 16 1 7 1 2 1 2 1 2 2 1 1 5 4 2 2 3 3 1 7 4 1 1 7 11"⟩,
  ⟨["Gurung_Khema", "gukh"], "965 1 1579a 3a", some "16100 3a"⟩,
  ⟨["Han", "hani"],
    "b7 1 2dc8 1a 1 59 c d6 1a 10 1 3 1 d 1 d 1 d 2 1 6 9 bb 1 94 10 20 26 9 1 30 28 38 31 f c 33 1
    58 19 a 5 60 1f 1 19c0 40 5200 700 8 51f8 16e 2 6a 36b 2 11a 5 707c 2 c 2 636e 12 1ede 2 dae
    a6e0 20 103a 6 de 2 1682 e 1d31 f 26e 9a2 21e 5e2 134b 5 1060",
    some "2e80 1a 1 59 c d6 2f 1 1 1 19 9 e 4 3c4 19c0 40 5200 5900 16e 2 6a 7508 2 c 2 900e a6e0 20
      103a 6 de 2 1682 e 1d31 f 26e 9a2 21e 5e2 134b 5 1060"⟩,
  ⟨["Hangul", "hang"],
    "1100 100 1e01 3 4 a 1 d e 3 6 1 c3 1 35 5e 71 1f 41 1f 76e1 1d 283 2ba4 c 17 4 31 2649 2 11a 5
    3a 1f 3 6 2 6 2 6 2 3",
    some "1100 100 1e2e 2 101 5e 71 1f 41 1f 76e1 1d 283 2ba4 c 17 4 31 27a4 1f 3 6 2 6 2 6 2 3"⟩,
  ⟨["Hanifi_Rohingya", "rohg"], "60c 1 e 1 3 1 20 1 93 1 1062b 28 8 a", some "10d00 28 8 a"⟩,
  ⟨["Hanunoo", "hano"], "1720 17", some "1720 15"⟩,
  ⟨["Hatran", "hatr"], "108e0 13 1 2 5 5", none⟩,
  ⟨["Hebrew", "hebr"],
    "307 2 288 37 8 1b 4 6 f528 1a 1 5 1 1 1 2 1 2 1 a",
    some "591 37 8 1b 4 6 f528 1a 1 5 1 1 1 2 1 2 1 a"⟩,
  ⟨["Hiragana", "hira"],
    "3001 3 4 a 1 d 10 6 1 1 4 2 3 56 2 8 5a 2 cd48 2 11a 5 a 1 2d 2 b061 11f 12 1 1d 3 40ad 1",
    some "3041 56 6 3 17f61 11f 12 1 1d 3 40ad 1"⟩,
  ⟨["Imperial_Aramaic", "armi"], "10840 16 1 9", none⟩,
  ⟨["Inherited", "qaai", "zinh"],
    "30f 1 2 1 1 c 1 2 3 7 2 1 2 10 1 2 1 12 1 5 1 4 5f0 2 115b 1f 2f3 36 1 1 1 5 20c 2 c2 20 dd10
    10 10 e 3cf 1 cd02 2e 2 17 220 3 11 8 2 7 1e 4 c2f52 f0",
    some "300 70 115 2 1c4 b 1a 1 2e0 4 115b 1f 201 3 1 d 1 7 4 1 6 1 3 2 c6 40 20c 2 c2 21 f39
      4 6b 2 cd65 10 10 e 3cf 1 e2 1 105a 1 bbc4 2e 2 17 220 3 11 8 2 7 1e 4 c2f52 f0"⟩,
  ⟨["Inscriptional_Pahlavi", "phli"], "10b60 13 5 8", none⟩,
  ⟨["Inscriptional_Parthian", "prti"], "10b40 16 2 8", none⟩,
  ⟨["Javanese", "java"], "a980 4e 1 b 4 2", some "a980 4e 2 a 4 2"⟩,
  ⟨["Kaithi", "kthi"], "966 a 24c1 1 79fe a 6846 43 a 1", some "11080 43 a 1"⟩,
  ⟨["Kannada", "knda"],
    "951 2 11 2 31a d 1 3 1 17 1 a 1 5 2 9 1 3 1 4 7 2 6 2 1 4 2 a 1 3 fdc 1 1 2 6 1 17 1 1 1 8b3b
    6",
    some "c80 d 1 3 1 17 1 a 1 5 2 9 1 3 1 4 7 2 6 2 1 4 2 a 1 3"⟩,
  ⟨["Katakana", "kana"],
    "305 1 1d 1 2cdd 3 4 a 1 d 10 6 1 1 4 2 5b 4 3 60 f0 10 d0 2f 1 58 caed 2 11a 3f b050 4 1 7 1 2
    1 1 11f 3 32 1 e 4",
    some "30a1 5a 2 3 f0 10 d0 2f 1 58 cc0e a 1 2d b052 4 1 7 1 2 1 1 11f 3 32 1 e 4"⟩,
  ⟨["Kawi"], "11f00 11 1 29 3 1d", none⟩,
  ⟨["Kayah_Li", "kali"], "a900 30", some "a900 2e 1 1"⟩,
  ⟨["Kharoshthi", "khar"], "10a00 4 1 2 5 8 1 3 1 1d 2 3 4 a 7 9", none⟩,
  ⟨["Khitan_Small_Script", "kits"], "16fe4 1 1b1b 1d6 29 1", none⟩,
  ⟨["Khmer", "khmr"], "1780 5e 2 a 6 a 1e6 20", none⟩,
  ⟨["Khojki", "khoj"], "ae6 a 9d40 a 69c6 12 1 2f", some "11200 12 1 2f"⟩,
  ⟨["Khudawadi", "sind"], "964 2 9eca a 6a76 3b 5 a", some "112b0 3b 5 a"⟩,
  ⟨["Kirat_Rai", "krai"], "16d40 3a", none⟩,
  ⟨["Lao", "laoo"], "e81 2 1 1 1 5 1 18 1 1 1 17 2 5 1 1 1 7 1 a 2 4", none⟩,
  ⟨["Latin", "latn"],
    "41 1a 6 1a 2f 1 c 1 2 1 5 17 1 1f 1 1c1 3 1 a 1 1 3 1 1 9 1 1 1 6 5 1b f 1 2 1 1 c 1 2 3 7 2 1
    2 26 1 5 1 4 d 115 2 4ca 2 7a8 1 c04 26 6 31 5 4 5 d 1 46 39 1 7 100 12f 1 41 1 d 1 10 d 53 1
    39 2 6 1 1b 1 11 29 ad7 20 197 1 78e8 8 1a 66 3 43 2 2 1 1 1 8 15 e 12e 1 201 2b 1 9 1 4 4f96
    7 41a 1a 6 1a 825 6 1 2a 1 9 d745 1f 6 6",
    some "41 1a 6 1a 2f 1 f 1 5 17 1 1f 1 1c1 27 5 1a1b 26 6 31 5 4 5 d 1 46 41 100 171 1 d 1 10
      d 8d 2 6 1 1b 1 11 29 ad7 20 7aa2 66 3 43 2 2 1 1 1 8 15 e 330 2b 1 9 1 4 4f96 7 41a 1a 6
      1a 825 6 1 2a 1 9 d745 1f 6 6"⟩,
  ⟨["Lepcha", "lepc"], "1c00 38 3 f 3 3", none⟩,
  ⟨["Limbu", "limb"], "965 1 f9a 1f 1 c 4 c 4 1 3 c", some "1900 1f 1 c 4 c 4 1 3 c"⟩,
  ⟨["Linear_A", "lina"], "10107 2d 4cc 137 9 16 a 8", some "10600 137 9 16 a 8"⟩,
  ⟨["Linear_B", "linb"],
    "10000 c 1 1a 1 13 1 2 1 f 2 e 22 7b 5 3 4 2d 3 9",
    some "10000 c 1 1a 1 13 1 2 1 f 2 e 22 7b"⟩,
  ⟨["Lisu"], "2bc 1 10 1 2d3c 2 74c4 30 7ab0 1", some "a4d0 30 7ab0 1"⟩,
  ⟨["Lycian", "lyci"], "205a 1 e225 1d", some "10280 1d"⟩,
  ⟨["Lydian", "lydi"], "b7 1 2d79 1 daee 1a 5 1", some "10920 1a 5 1"⟩,
  ⟨["Mahajani", "mahj"], "b7 1 8ac c 9ec0 a 6916 27", some "11150 27"⟩,
  ⟨["Makasar", "maka"], "11ee0 19", none⟩,
  ⟨["Malayalam", "mlym"],
    "951 2 11 2 39a d 1 3 1 33 1 3 1 6 4 10 2 1a f5a 1 17 1 8b3d 3",
    some "d00 d 1 3 1 33 1 3 1 6 4 10 2 1a"⟩,
  ⟨["Mandaic", "mand"], "640 1 1ff 1c 2 1", some "840 1c 2 1"⟩,
  ⟨["Manichaean", "mani"], "640 1 1047f 27 4 c", some "10ac0 27 4 c"⟩,
  ⟨["Marchen", "marc"], "11c70 20 2 16 1 e", none⟩,
  ⟨["Masaram_Gondi", "gonm"],
    "964 2 1139a 7 1 2 1 2c 3 1 1 2 1 9 8 a",
    some "11d00 7 1 2 1 2c 3 1 1 2 1 9 8 a"⟩,
  ⟨["Medefaidrin", "medf"], "16e40 5b", none⟩,
  ⟨["Meetei_Mayek", "mtei"], "aae0 17 c9 2e 2 a", none⟩,
  ⟨["Mende_Kikakui", "mend"], "1e800 c5 2 10", none⟩,
  ⟨["Meroitic_Cursive", "merc"], "109a0 18 4 14 2 2e", none⟩,
  ⟨["Meroitic_Hieroglyphs", "mero"], "205d 1 e922 20", some "10980 20"⟩,
  ⟨["Miao", "plrd"], "16f00 4b 4 39 7 11", none⟩,
  ⟨["Modi"], "a830 a 6dc6 45 b a", some "11600 45 b a"⟩,
  ⟨["Mongolian", "mong"],
    "1800 1a 6 59 7 2b 784 1 fd1 2 5 4 e654 d",
    some "1800 2 2 1 1 14 6 59 7 2b fdb5 d"⟩,
  ⟨["Mro", "mroo"], "16a40 1f 1 a 4 2", none⟩,
  ⟨["Multani", "mult"], "a66 a 10810 7 1 1 1 4 1 f 1 b", some "11280 7 1 1 1 4 1 f 1 b"⟩,
  ⟨["Myanmar", "mymr"], "1000 a0 988e 1 b1 1f 61 20 6c50 14", some "1000 a0 9940 1f 61 20 6c50 14"⟩,
  ⟨["Nabataean", "nbat"], "10880 1f 8 9", none⟩,
  ⟨["Nag_Mundari", "nagm"], "1e4d0 2a", none⟩,
  ⟨["Nandinagari", "nand"],
    "964 2 380 a ff9 1 8 1 7 1 8b35 6 716a 8 2 2e 2 b",
    some "119a0 8 2 2e 2 b"⟩,
  ⟨["New_Tai_Lue", "talu"], "1980 2c 4 1a 6 b 3 2", none⟩,
  ⟨["Newa"], "11400 5c 1 5", none⟩,
  ⟨["Nko", "nkoo"], "60c 1 e 1 3 1 1a0 3b 2 3 f53e 2", some "7c0 3b 2 3"⟩,
  ⟨["Nushu", "nshu"], "16fe1 1 418e 18c", none⟩,
  ⟨["Nyiakeng_Puachue_Hmong", "hmnp"], "1e100 2d 3 e 2 a 4 2", none⟩,
  ⟨["Ogham", "ogam"], "1680 1d", none⟩,
  ⟨["Ol_Chiki", "olck"], "1c50 30", none⟩,
  ⟨["Ol_Onal", "onao"], "964 2 1dc6a 2b 4 1", some "1e5d0 2b 4 1"⟩,
  ⟨["Old_Hungarian", "hung"], "205a 1 2 1 dd3 1 f 1 de3e 33 d 33 7 6", some "10c80 33 d 33 7 6"⟩,
  ⟨["Old_Italic", "ital"], "10300 24 9 3", none⟩,
  ⟨["Old_North_Arabian", "narb"], "10a80 20", none⟩,
  ⟨["Old_Permic", "perm"], "b7 1 248 1 5 3 a 1 16f 1 fecc 2b", some "10350 2b"⟩,
  ⟨["Old_Persian", "xpeo"], "103a0 24 4 e", none⟩,
  ⟨["Old_Sogdian", "sogo"], "10f00 28", none⟩,
  ⟨["Old_South_Arabian", "sarb"], "10a60 20", none⟩,
  ⟨["Old_Turkic", "orkh"], "205a 1 dd5 1 ddcf 49", some "10c00 49"⟩,
  ⟨["Old_Uyghur", "ougr"], "640 1 104b1 1 47d 1a", some "10f70 1a"⟩,
  ⟨["Oriya", "orya"],
    "951 2 11 2 19b 3 1 8 2 2 2 16 1 7 1 2 1 5 2 9 2 2 2 3 7 3 4 2 1 5 2 12 1162 1 17 1",
    some "b01 3 1 8 2 2 2 16 1 7 1 2 1 5 2 9 2 2 2 3 7 3 4 2 1 5 2 12"⟩,
  ⟨["Osage", "osge"], "301 1 2 1 6 1 4c 1 10157 24 4 24", some "104b0 24 4 24"⟩,
  ⟨["Osmanya", "osma"], "10480 1e 2 a", none⟩,
  ⟨["Pahawh_Hmong", "hmng"], "16b00 46 a a 1 7 1 15 5 13", none⟩,
  ⟨["Palmyrene", "palm"], "10860 20", none⟩,
  ⟨["Pau_Cin_Hau", "pauc"], "11ac0 39", none⟩,
  ⟨["Phags_Pa", "phag"], "1802 2 1 1 829 1 fd2 1 783d 38", some "a840 38"⟩,
  ⟨["Phoenician", "phnx"], "10900 1c 3 1", none⟩,
  ⟨["Psalter_Pahlavi", "phlp"], "640 1 1053f 12 7 4 c 7", some "10b80 12 7 4 c 7"⟩,
  ⟨["Rejang", "rjng"], "a930 24 b 1", none⟩,
  ⟨["Runic", "runr"], "16a0 59", some "16a0 4b 3 b"⟩,
  ⟨["Samaritan", "samr"], "800 2e 2 f 25f2 1", some "800 2e 2 f"⟩,
  ⟨["Saurashtra", "saur"], "a880 46 8 c", none⟩,
  ⟨["Sharada", "shrd"], "951 1 1385 1 1 1 2 2 2 1 8b4f 6 2 1 6947 60", some "11180 60"⟩,
  ⟨["Shavian", "shaw"], "b7 1 10398 30", some "10450 30"⟩,
  ⟨["Siddham", "sidd"], "11580 36 2 26", none⟩,
  ⟨["SignWriting", "sgnw"], "1d800 28c f 5 1 f", none⟩,
  ⟨["Sinhala", "sinh"],
    "964 2 41b 3 1 12 3 18 1 9 1 1 2 7 3 1 4 6 1 1 1 8 6 a 2 3 efd 1 f4ee 14",
    some "d81 3 1 12 3 18 1 9 1 1 2 7 3 1 4 6 1 1 1 8 6 a 2 3 103ec 14"⟩,
  ⟨["Sogdian", "sogd"], "640 1 108ef 2a", some "10f30 2a"⟩,
  ⟨["Sora_Sompeng", "sora"], "110d0 19 7 a", none⟩,
  ⟨["Soyombo", "soyo"], "11a50 53", none⟩,
  ⟨["Sundanese", "sund"], "1b80 40 100 8", none⟩,
  ⟨["Sunuwar", "sunu"], "300 2 1 1 9 1 2 1 1c 1 3 1 1188e 22 e a", some "11bc0 22 e a"⟩,
  ⟨["Syloti_Nagri", "sylo"], "964 2 80 a 9e10 2d", some "a800 2d"⟩,
  ⟨["Syriac", "syrc"],
    "303 2 2 2 1 1 15 1 2 3 7 2 1 1 2db 1 e 2 2 1 20 1 a b 1a 1 8f e 1 3c 2 3 110 b 158d 1 1 1",
    some "700 e 1 3c 2 3 110 b"⟩,
  ⟨["Tagalog", "tglg"], "1700 16 9 1 15 2", some "1700 16 9 1"⟩,
  ⟨["Tagbanwa", "tagb"], "1735 2 29 d 1 3 1 2", some "1760 d 1 3 1 2"⟩,
  ⟨["Tai_Le", "tale"], "300 2 5 2 3 1 d33 a 906 1e 2 5", some "1950 1e 2 5"⟩,
  ⟨["Tai_Tham", "lana"], "1a20 3f 1 1d 2 b 6 a 6 e", none⟩,
  ⟨["Tai_Viet", "tavt"], "aa80 43 18 5", none⟩,
  ⟨["Takri", "takr"], "964 2 9eca a 6e46 3a 6 a", some "11680 3a 6 a"⟩,
  ⟨["Tamil", "taml"],
    "951 2 11 2 21c 2 1 6 3 3 1 4 3 2 1 1 1 2 3 2 3 3 3 c 4 5 3 3 1 4 2 1 6 1 e 15 10df 1 8c18 1
    6a0d 1 1 1 37 2 c83 32 d 1",
    some "b82 2 1 6 3 3 1 4 3 2 1 1 1 2 3 2 3 3 3 c 4 5 3 3 1 4 2 1 6 1 e 15 113c5 32 d 1"⟩,
  ⟨["Tangsa", "tnsa"], "16a70 4f 1 a", none⟩,
  ⟨["Tangut", "tang"],
    "2ff0 10 1ef 1 13df0 1 1f 17f8 8 300 200 9",
    some "16fe0 1 1f 17f8 8 300 200 9"⟩,
  ⟨["Telugu", "telu"],
    "951 2 11 2 29a d 1 3 1 17 1 10 2 9 1 3 1 4 7 2 1 3 2 1 2 4 2 a 7 9 105a 1 17 1",
    some "c00 d 1 3 1 17 1 10 2 9 1 3 1 4 7 2 1 3 2 1 2 4 2 a 7 9"⟩,
  ⟨["Thaana", "thaa"], "60c 1 e 2 2 1 40 a 116 32 f640 1 a 1", some "780 32"⟩,
  ⟨["Thai"], "2bc 1 1a 1 2b 1 2d 1 acf 3a 5 1c", some "e01 3a 5 1c"⟩,
  ⟨["Tibetan", "tibt"],
    "f00 48 1 24 4 27 1 24 1 f 1 7 4 2 202d 4",
    some "f00 48 1 24 4 27 1 24 1 f 1 7 4 2"⟩,
  ⟨["Tifinagh", "tfng"], "302 1 1 1 2 1 1 1 2a26 38 7 2 e 1", some "2d30 38 7 2 e 1"⟩,
  ⟨["Tirhuta", "tirh"], "951 2 11 2 138c 1 8b3d a 6c46 48 8 a", some "11480 48 8 a"⟩,
  ⟨["Todhri", "todr"], "301 1 2 1 2 1 9 1 1 1 4a 1 10261 34", some "105c0 34"⟩,
  ⟨["Toto"], "2bc 1 1dfd3 1f", some "1e290 1f"⟩,
  ⟨["Tulu_Tigalari", "tutg"],
    "ce6 a 1002 1 1 1 8b3b 6 bb 1 6a8e a 1 1 2 1 1 26 1 a 1 1 2 1 1 4 1 a 1 2 8 2",
    some "11380 a 1 1 2 1 1 26 1 a 1 1 2 1 1 4 1 a 1 2 8 2"⟩,
  ⟨["Ugaritic", "ugar"], "10380 1e 1 1", none⟩,
  ⟨["Vai", "vaii"], "a500 12c", none⟩,
  ⟨["Vithkuqi", "vith"], "10570 b 1 f 1 7 1 2 1 b 1 f 1 7 1 2", none⟩,
  ⟨["Wancho", "wcho"], "1e2c0 3a 5 1", none⟩,
  ⟨["Warang_Citi", "wara"], "118a0 53 c 1", none⟩,
  ⟨["Yezidi", "yezi"], "60c 1 e 1 3 1 40 a 10816 2a 1 3 2 2", some "10e80 2a 1 3 2 2"⟩,
  ⟨["Yi", "yiii"], "3001 2 5 a 2 8 df 1 6f04 48d 3 37 5a9a 5", some "a000 48d 3 37"⟩,
  ⟨["Zanabazar_Square", "zanb"], "11a00 48", none⟩]

end Unicode
end Reflash
