import LatencyHarness.Pattern.Unicode.Runs

/-! Binary properties of code points (Unicode 15). -/
namespace LatencyHarness.Pattern.Unicode

/-- How many code points in turn lack and have the property Alphabetic. -/
def alphabeticText : List String := [
  "41 1A 6 1A 2F 1 A 1 4 1 5 17 1 1F 1 1CA 4 C E 5 7 1 1 1 56 1 2A 5 1 2 2 4 1 1 6 1 1 3 1 1 1",
  "14 1 53 1 8B 8 A6 1 26 2 1 6 29 27 E 1 1 1 2 1 2 1 1 8 1B 4 4 1D B 5 38 1 7 E 66 1 8 4 8 4 3",
  "A 3 2 1 10 30 D 65 18 21 9 2 4 1 5 18 2 13 13 19 7 B 5 18 1 6 11 2A A C 3 7 6 4C 1 10 1 3 4",
  "F D 13 1 8 2 2 2 16 1 7 1 1 3 4 3 8 2 2 2 2 1 1 8 1 4 2 1 5 C 2 A 1 4 3 1 6 4 2 2 16 1 7 1 2",
  "1 2 1 2 4 5 4 2 2 2 4 1 7 4 1 1 11 6 B 3 1 9 1 3 1 16 1 7 1 2 1 5 3 9 1 3 1 2 3 1 F 4 15 4 4",
  "3 1 8 2 2 2 16 1 7 1 2 1 5 3 8 2 2 2 2 9 2 4 2 1 5 D 1 10 2 1 6 3 3 1 4 3 2 1 1 1 2 3 2 3 3",
  "3 C 4 5 3 3 1 3 3 1 6 1 28 D 1 3 1 17 1 10 3 8 1 3 1 3 8 2 1 3 2 1 2 4 1C 4 1 8 1 3 1 17 1 A",
  "1 5 3 8 1 3 1 3 8 2 6 2 1 4 D 3 C D 1 3 1 29 2 8 1 3 1 3 1 1 5 4 7 5 16 6 1 3 1 12 3 18 1 9",
  "1 1 2 7 8 6 1 1 1 8 12 2 D 3A 5 7 6 1 33 2 1 1 1 5 1 18 1 1 1 13 1 3 2 5 1 1 6 1 E 4 20 1 3F",
  "8 1 24 4 13 4 10 1 24 43 37 1 1 2 5 10 40 A 4 2 26 1 1 5 1 2 2B 1 14D 1 4 2 7 1 1 1 4 2 29 1",
  "4 2 21 1 4 2 7 1 1 1 4 2 F 1 39 1 4 2 43 25 10 10 56 2 6 3 26C 2 11 1 1A 5 4B 3 B 7 14 B 15",
  "C 14 C D 1 3 1 2 C 34 2 13 E 1 4 1 43 59 7 2B 5 46 A 1F 1 C 4 9 17 1E 2 5 B 2C 4 1A 36 1C 4",
  "3F 2 14 32 1 17 2 B 3 31 34 1 F 1 8 33 2A 2 4 A 2C 1 B E 37 16 3 A 24 2 9 7 2B 2 3 29 4 1 6",
  "1 2 3 1 5 C0 27 E B 116 2 6 2 26 2 6 2 8 1 1 1 1 1 1 1 1F 2 35 1 7 1 1 3 3 1 7 3 4 2 6 4 D 5",
  "3 1 7 74 1 D 1 10 D 65 1 4 1 2 A 1 1 3 5 6 1 1 1 1 1 1 4 1 B 2 4 5 5 4 1 11 29 32D 34 716 E5",
  "6 4 3 2 C 26 1 1 5 1 2 38 7 1 10 17 9 7 1 7 1 7 1 7 1 7 1 7 1 7 1 7 1 20 2F 1 1D5 3 19 9 7 5",
  "2 5 4 56 6 3 1 5A 1 4 5 2B 1 5E 11 20 30 10 200 19C0 40 568D 43 2E 2 10D 3 10 A 2 14 2F 5 8",
  "3 71 27 9 2 67 2 40 5 2 1 1 1 5 18 14 1 21 18 34 C 44 1 1 2C 6 3 1 1 3 A 21 5 23 D 1D 3 33 1",
  "C F 1 10 10 A 5 1 37 9 E 12 17 3 45 1 1 1 1 18 3 2 10 2 4 B 6 2 6 2 6 9 7 1 7 1 2B 1 E 6 7B",
  "15 2BA4 C 17 4 31 2104 16E 2 6A 26 7 C 5 5 C 1 D 1 5 1 1 1 2 1 2 1 6C 21 16B 12 40 2 36 28 C",
  "74 5 1 87 24 1A 6 1A B 59 3 6 2 6 2 6 2 3 23 C 1 1A 1 13 1 2 1 F 2 E 22 7B 45 35 10B 1D 3 31",
  "2F 20 D 1E 5 2B 5 1E 2 24 4 8 1 5 2A 9E 12 24 4 24 4 28 8 34 C B 1 F 1 7 1 2 1 B 1 F 1 7 1 2",
  "43 137 9 16 A 8 18 6 1 2A 1 9 45 6 2 1 1 2C 1 2 3 1 2 17 A 17 9 1F 41 13 1 2 A 16 A 1A 46 38",
  "6 2 40 4 1 2 5 8 1 3 1 1D 2A 1D 3 1D 23 8 1 1C 1B 36 A 16 A 13 D 12 6E 49 37 33 D 33 D 28",
  "158 2A 1 2 3 2 4E 1D A 1 8 16 2A 12 2E 15 1B 17 9 46 2B 5 A 39 9 1 D 19 17 33 11 4 8 23 3 1",
  "9 40 1 4 9 2 A 1 1 1 23 12 1 22 2 1 6 4 3E 7 1 1 1 4 1 F 1 A 7 39 17 4 1 8 2 2 2 16 1 7 1 2",
  "1 5 3 8 2 2 2 2 3 1 6 1 5 7 9C 42 1 3 1 4 14 3 1E 42 2 2 1 1 B8 36 2 7 19 6 22 3F 1 1 3 1 3B",
  "36 2 1 47 1B 2 E 15 7 B9 39 67 40 1F 8 2 1 2 8 1 2 1 1E 1 2 2 2 2 4 5D 8 2 2E 2 6 1 1 1 2 1B",
  "33 2 A 11 48 5 1 12 49 107 9 1 2D 1 7 1 1 31 1E 2 16 1 E 49 7 1 2 1 2C 3 1 1 2 1 3 1 1 2 2",
  "18 6 1 2 1 25 1 2 1 4 1 1 147 17 9 11 1 29 3 3 6F 1 4F 39A 66 6F 11 C4 A4C 61 F 430 11 6 FB9",
  "247 21B9 239 7 1F 11 4F 11 1E 12 30 10 4 1F 15 5 13 2B0 40 80 4B 4 39 7 11 40 2 1 1 C 2 E",
  "17F8 8 4D6 2A 9 22E7 4 1 7 1 2 1 123 F 1 1D 3 2 1 E 4 8 18C 904 6B 5 D 3 9 7 A 4 1 1761 55 1",
  "47 1 2 2 1 2 2 2 4 1 C 1 1 1 7 1 41 1 4 2 8 1 7 1 1C 1 4 1 5 1 1 3 7 1 154 2 19 1 19 1 1F 1",
  "19 1 1F 1 19 1 1F 1 19 1 1F 1 19 1 8 734 1F 6 6 D5 7 1 11 2 7 1 2 1 5 5 3E 21 1 70 2D A 7 10",
  "1 141 1E 12 2C 1E4 1C 2F4 7 1 4 1 2 1 F 1 C5 3B 44 3 1 3 1 4B4 4 1 1B 1 2 1 1 2 1 1 A 1 4 1",
  "1 1 1 6 1 4 1 1 1 1 1 1 3 1 2 1 1 2 1 1 1 1 1 1 1 1 1 1 2 1 1 2 4 1 7 1 4 1 4 1 1 1 A 1 11 5",
  "3 1 5 1 11 274 1A 6 1A 6 1A E76 A6E0 20 103A 6 DE 2 1682 E 1D31 C1F 21E 5E2 134B 5 1060"]

/-- How many code points in turn lack and have the property Lowercase. -/
def lowercaseText : List String := [
  "61 1A 2F 1 A 1 4 1 24 18 1 8 1 1 1 1 1 1 1 1 1 1 1 1 1 1 1 1 1 1 1 1 1 1 1 1 1 1 1 1 1 1 1 1",
  "1 1 1 1 1 1 1 1 1 1 1 1 1 1 1 1 1 1 1 1 1 1 1 2 1 1 1 1 1 1 1 1 1 1 1 1 1 1 1 2 1 1 1 1 1 1",
  "1 1 1 1 1 1 1 1 1 1 1 1 1 1 1 1 1 1 1 1 1 1 1 1 1 1 1 1 1 1 1 1 1 1 1 1 1 1 1 1 2 1 1 1 1 3",
  "2 1 1 1 2 1 3 2 4 1 2 1 3 3 2 1 2 1 1 1 1 1 2 1 1 2 1 1 2 1 3 1 1 1 2 2 2 3 6 1 2 1 2 1 1 1",
  "1 1 1 1 1 1 1 1 1 1 1 1 1 2 1 1 1 1 1 1 1 1 1 1 1 1 1 1 1 1 1 2 2 1 1 1 3 1 1 1 1 1 1 1 1 1",
  "1 1 1 1 1 1 1 1 1 1 1 1 1 1 1 1 1 1 1 1 1 1 1 1 1 1 1 1 1 1 1 1 1 1 1 1 1 1 1 1 1 1 1 1 1 1",
  "1 1 1 7 2 1 2 2 1 1 4 1 1 1 1 1 1 1 1 45 1 24 7 2 1E 5 60 1 2B 1 1 1 3 1 2 4 12 1 1B 23 1 2",
  "3 3 1 1 1 1 1 1 1 1 1 1 1 1 1 1 1 1 1 1 1 1 1 1 1 5 1 1 2 1 2 2 33 30 1 1 1 1 1 1 1 1 1 1 1",
  "1 1 1 1 1 1 1 1 1 1 1 1 1 1 1 1 1 1 1 1 1 1 1 9 1 1 1 1 1 1 1 1 1 1 1 1 1 1 1 1 1 1 1 1 1 1",
  "1 1 1 1 1 1 1 1 1 1 1 1 1 1 1 1 1 1 1 1 1 1 1 1 1 1 1 1 1 1 1 2 1 1 1 1 1 1 1 1 1 1 1 1 2 1",
  "1 1 1 1 1 1 1 1 1 1 1 1 1 1 1 1 1 1 1 1 1 1 1 1 1 1 1 1 1 1 1 1 1 1 1 1 1 1 1 1 1 1 1 1 1 1",
  "1 1 1 1 1 1 1 1 1 1 1 1 1 1 1 1 1 1 1 1 1 1 1 1 1 1 1 1 1 1 1 1 1 1 1 1 1 1 1 1 1 1 1 1 1 1",
  "1 1 1 30 29 B47 2B 1 4 2F8 6 882 9 77 C0 41 1 1 1 1 1 1 1 1 1 1 1 1 1 1 1 1 1 1 1 1 1 1 1 1",
  "1 1 1 1 1 1 1 1 1 1 1 1 1 1 1 1 1 1 1 1 1 1 1 1 1 1 1 1 1 1 1 1 1 1 1 1 1 1 1 1 1 1 1 1 1 1",
  "1 1 1 1 1 1 1 1 1 1 1 1 1 1 1 1 1 1 1 1 1 1 1 1 1 1 1 1 1 1 1 1 1 1 1 1 1 1 1 1 1 1 1 1 1 1",
  "1 1 1 1 1 1 1 1 1 1 1 1 1 1 1 1 1 1 1 1 1 1 1 1 1 1 1 1 1 1 1 1 9 1 1 1 1 1 1 1 1 1 1 1 1 1",
  "1 1 1 1 1 1 1 1 1 1 1 1 1 1 1 1 1 1 1 1 1 1 1 1 1 1 1 1 1 1 1 1 1 1 1 1 1 1 1 1 1 1 1 1 1 1",
  "1 1 1 1 1 1 1 1 1 1 1 1 1 1 1 1 1 1 1 1 1 1 1 1 1 1 1 1 1 1 1 1 1 1 1 1 1 1 9 8 6 A 8 8 8 8",
  "6 A 8 8 8 8 E 2 8 8 8 8 8 8 5 1 2 6 1 3 3 1 2 8 4 2 2 8 8 A 3 1 2 79 1 D 1 10 D 6D 1 3 2 3 1",
  "1B 1 4 1 4 1 2 2 8 4 4 1 21 10 4 1 34B 1A 746 30 1 1 3 2 1 1 1 1 1 1 4 1 1 2 1 8 3 1 1 1 1 1",
  "1 1 1 1 1 1 1 1 1 1 1 1 1 1 1 1 1 1 1 1 1 1 1 1 1 1 1 1 1 1 1 1 1 1 1 1 1 1 1 1 1 1 1 1 1 1",
  "1 1 1 1 1 1 1 1 1 1 1 1 1 1 1 1 1 1 1 1 1 1 1 1 1 1 1 1 1 1 1 1 1 1 1 1 1 1 1 1 1 1 1 1 1 1",
  "1 2 7 1 1 1 4 1 C 26 1 1 5 1 7913 1 1 1 1 1 1 1 1 1 1 1 1 1 1 1 1 1 1 1 1 1 1 1 1 1 1 1 1 1",
  "1 1 1 1 1 1 1 1 1 1 1 1 1 1 1 1 13 1 1 1 1 1 1 1 1 1 1 1 1 1 1 1 1 1 1 1 1 1 1 1 1 1 1 3 85",
  "1 1 1 1 1 1 1 1 1 1 1 1 3 1 1 1 1 1 1 1 1 1 1 1 1 1 1 1 1 1 1 1 1 1 1 1 1 1 1 1 1 1 1 1 1 1",
  "1 1 1 1 1 1 1 1 1 1 1 1 1 1 1 1 1 1 1 1 1 1 1 1 1 1 1 1 A 1 1 1 1 2 1 1 1 1 1 1 1 1 1 4 1 1",
  "1 2 1 1 3 1 1 1 1 1 1 1 1 1 1 1 1 1 1 1 1 1 1 1 1 5 1 5 1 1 1 1 1 1 1 1 1 1 1 1 1 1 1 4 1 1",
  "1 6 1 1 1 1 1 1 1 1 1 18 3 1 1 1 3 335 2B 1 E 6 50 4F40 7 C 5 429 1A 4CD 28 88 24 9B B 1 F 1",
  "7 1 2 1C3 1 2 3 1 2A 1 9 505 33 BCD 20 5580 20 659A 1A 1A 7 1 12 1A 1A 1A 4 1 1 1 7 1 B 1A",
  "1A 1A 1A 1A 1A 1A 1A 1A 1A 1A 1A 1A 1A 1A 1A 1A 1C 1C 19 1 6 1A 19 1 6 1A 19 1 6 1A 19 1 6",
  "1A 19 1 6 1 1 734 A 1 14 6 6 105 3E 8B4 22"]

/-- How many code points in turn lack and have the property Uppercase. -/
def uppercaseText : List String := [
  "41 1A 65 17 1 7 21 1 1 1 1 1 1 1 1 1 1 1 1 1 1 1 1 1 1 1 1 1 1 1 1 1 1 1 1 1 1 1 1 1 1 1 1 1",
  "1 1 1 1 1 1 1 1 1 1 1 1 1 1 1 1 1 1 2 1 1 1 1 1 1 1 1 1 1 1 1 1 1 1 2 1 1 1 1 1 1 1 1 1 1 1",
  "1 1 1 1 1 1 1 1 1 1 1 1 1 1 1 1 1 1 1 1 1 1 1 1 1 1 1 1 1 1 1 1 1 1 1 2 1 1 1 1 3 2 1 1 1 2",
  "1 3 2 4 1 2 1 3 3 2 1 2 1 1 1 1 1 2 1 1 2 1 1 2 1 3 1 1 1 2 3 1 7 1 2 1 2 1 2 1 1 1 1 1 1 1",
  "1 1 1 1 1 1 1 1 2 1 1 1 1 1 1 1 1 1 1 1 1 1 1 1 1 1 2 1 2 1 1 3 1 1 1 1 1 1 1 1 1 1 1 1 1 1",
  "1 1 1 1 1 1 1 1 1 1 1 1 1 1 1 1 1 1 1 1 1 1 1 1 1 1 1 1 1 1 1 1 1 1 1 1 1 1 1 1 1 1 1 1 7 2",
  "1 2 2 1 1 4 1 1 1 1 1 1 1 1 121 1 1 1 3 1 8 1 6 1 1 3 1 1 1 2 1 11 1 9 23 1 2 3 3 1 1 1 1 1",
  "1 1 1 1 1 1 1 1 1 1 1 1 1 1 1 1 1 1 5 1 2 1 1 2 2 33 30 1 1 1 1 1 1 1 1 1 1 1 1 1 1 1 1 1 1",
  "1 1 1 1 1 1 1 1 1 1 1 1 1 1 1 9 1 1 1 1 1 1 1 1 1 1 1 1 1 1 1 1 1 1 1 1 1 1 1 1 1 1 1 1 1 1",
  "1 1 1 1 1 1 1 1 1 1 1 1 1 1 1 1 1 1 1 1 1 1 1 1 2 1 1 1 1 1 1 1 1 1 1 1 1 2 1 1 1 1 1 1 1 1",
  "1 1 1 1 1 1 1 1 1 1 1 1 1 1 1 1 1 1 1 1 1 1 1 1 1 1 1 1 1 1 1 1 1 1 1 1 1 1 1 1 1 1 1 1 1 1",
  "1 1 1 1 1 1 1 1 1 1 1 1 1 1 1 1 1 1 1 1 1 1 1 1 1 1 1 1 1 1 1 1 1 1 1 1 1 1 1 1 1 2 26 B49",
  "26 1 1 5 1 2D2 56 89A 2B 2 3 140 1 1 1 1 1 1 1 1 1 1 1 1 1 1 1 1 1 1 1 1 1 1 1 1 1 1 1 1 1 1",
  "1 1 1 1 1 1 1 1 1 1 1 1 1 1 1 1 1 1 1 1 1 1 1 1 1 1 1 1 1 1 1 1 1 1 1 1 1 1 1 1 1 1 1 1 1 1",
  "1 1 1 1 1 1 1 1 1 1 1 1 1 1 1 1 1 1 1 1 1 1 1 1 1 1 1 1 1 1 1 1 1 1 1 1 1 1 1 1 1 1 1 1 1 1",
  "1 1 1 1 1 1 1 1 1 1 1 1 1 1 1 1 1 1 1 1 1 1 1 1 1 1 1 9 1 1 1 1 1 1 1 1 1 1 1 1 1 1 1 1 1 1",
  "1 1 1 1 1 1 1 1 1 1 1 1 1 1 1 1 1 1 1 1 1 1 1 1 1 1 1 1 1 1 1 1 1 1 1 1 1 1 1 1 1 1 1 1 1 1",
  "1 1 1 1 1 1 1 1 1 1 1 1 1 1 1 1 1 1 1 1 1 1 1 1 1 1 1 1 1 1 1 1 1 9 8 8 6 A 8 8 8 8 6 B 1 1",
  "1 1 1 1 1 8 8 48 4 C 4 C 4 C 5 B 4 106 1 4 1 3 3 2 3 2 1 3 5 6 1 1 1 1 1 1 4 2 4 A 2 5 1 1A",
  "10 13 1 332 1A 730 30 30 1 1 3 2 1 1 1 1 1 1 4 1 1 2 1 8 3 1 1 1 1 1 1 1 1 1 1 1 1 1 1 1 1 1",
  "1 1 1 1 1 1 1 1 1 1 1 1 1 1 1 1 1 1 1 1 1 1 1 1 1 1 1 1 1 1 1 1 1 1 1 1 1 1 1 1 1 1 1 1 1 1",
  "1 1 1 1 1 1 1 1 1 1 1 1 1 1 1 1 1 1 1 1 1 1 1 1 1 1 1 1 1 1 1 1 1 1 1 8 1 1 1 4 1 794D 1 1 1",
  "1 1 1 1 1 1 1 1 1 1 1 1 1 1 1 1 1 1 1 1 1 1 1 1 1 1 1 1 1 1 1 1 1 1 1 1 1 1 1 1 1 1 13 1 1 1",
  "1 1 1 1 1 1 1 1 1 1 1 1 1 1 1 1 1 1 1 1 1 1 1 1 87 1 1 1 1 1 1 1 1 1 1 1 1 1 3 1 1 1 1 1 1 1",
  "1 1 1 1 1 1 1 1 1 1 1 1 1 1 1 1 1 1 1 1 1 1 1 1 1 1 1 1 1 1 1 1 1 1 1 1 1 1 1 1 1 1 1 1 1 1",
  "1 1 1 1 1 1 1 1 A 1 1 1 1 2 1 1 1 1 1 1 1 1 4 1 1 1 2 1 1 1 3 1 1 1 1 1 1 1 1 1 1 1 1 1 1 1",
  "1 1 1 1 1 5 1 5 1 1 1 1 1 1 1 1 1 1 1 1 1 1 1 4 1 1 6 1 5 1 1 1 1C 1 572B 1A 4C5 28 88 24 9C",
  "B 1 F 1 7 1 2 6EA 33 BED 20 5580 20 65A0 1A 1A 1A 1A 1A 1A 1 1 2 2 1 2 2 2 4 1 8 1A 1A 1A 2",
  "1 4 2 8 1 7 1B 2 1 4 1 5 1 1 3 7 1B 1A 1A 1A 1A 1A 1A 1A 1A 1A 1A 1A 1E 19 21 19 21 19 21 19",
  "21 19 21 1 1135 22 80E 1A 6 1A 6 1A"]

/-- How many code points in turn lack and have the property White_Space. -/
def whiteSpaceText : List String := [
  "9 5 12 1 64 1 1A 1 15DF 1 97F B 1D 2 5 1 2F 1 FA0 1"]

/-- How many code points in turn lack and have the property ASCII_Hex_Digit. -/
def asciiHexDigitText : List String := [
  "30 A 7 6 1A 6"]

/-- How many code points in turn lack and have the property Hex_Digit. -/
def hexDigitText : List String := [
  "30 A 7 6 1A 6 FEA9 A 7 6 1A 6"]

/-- How many code points in turn lack and have the property Cased. -/
def casedText : List String := [
  "41 1A 6 1A 2F 1 A 1 4 1 5 17 1 1F 1 C3 1 4 4 D0 1 24 7 2 1E 5 60 1 2A 4 2 2 2 4 1 1 6 1 1 3",
  "1 1 1 14 1 53 1 8B 8 A6 1 26 9 29 B17 26 1 1 5 1 2 2B 1 4 2A0 56 2 6 882 9 7 2B 2 3 40 C0 40",
  "116 2 6 2 26 2 6 2 8 1 1 1 1 1 1 1 1F 2 35 1 7 1 1 3 3 1 7 3 4 2 6 4 D 5 3 1 7 74 1 D 1 10 D",
  "65 1 4 1 2 A 1 1 3 5 6 1 1 1 1 1 1 4 1 6 4 1 2 4 5 5 4 1 11 20 3 2 331 34 716 E5 6 4 3 2 C",
  "26 1 1 5 1 7912 2E 12 1E 84 66 3 4 1 3B 5 2 1 1 1 5 18 5 1 3 335 2B 1 E 6 50 4F40 7 C 5 409",
  "1A 6 1A 4A5 50 60 24 4 24 74 B 1 F 1 7 1 2 1 B 1 F 1 7 1 2 1C3 1 2 3 1 2A 1 9 4C5 33 D 33",
  "BAD 40 5560 40 6580 55 1 47 1 2 2 1 2 2 2 4 1 C 1 1 1 7 1 41 1 4 2 8 1 7 1 1C 1 4 1 5 1 1 3",
  "7 1 154 2 19 1 19 1 1F 1 19 1 1F 1 19 1 1F 1 19 1 1F 1 19 1 8 734 A 1 14 6 6 105 3E 892 44",
  "7EC 1A 6 1A 6 1A"]

/-- How many code points in turn lack and have the property Math. -/
def mathText : List String := [
  "2B 1 10 3 1F 1 1D 1 1 1 2D 1 4 1 25 1 1F 1 2D8 3 2 1 1A 2 2 3 20F 3 1A0D 1 1B 3 B 1 3 1 D 1",
  "E 4 15 5 B 5 41 D 4 1 3 2 4 5 12 1 4 1 2 A 1 1 2 6 6 1 3 2 2 2 1 3 1 6 3 E 1 1 44 18 1 6 1 2",
  "4 2 4 20 1 1 6 2 E 10C 8 4 14 2 5A 1 1E 1B 1 1 18 1 B 7 1BD 2 C A 4 6 4 2 2 2 3 5 E 1 1 1 2",
  "6 B 8 5 2 39 1 1 1 1D 4 9 3 150 40 100 200 30 15 2 6 CFDC 1 337 6 1 1 A2 1 10 3 1D 1 1 1 1D",
  "1 1 1 83 1 6 4 D413 55 1 47 1 2 2 1 2 2 2 4 1 C 1 1 1 7 1 41 1 4 2 8 1 7 1 1C 1 4 1 5 1 1 3",
  "7 1 154 2 124 2 32 1600 4 1 1B 1 2 1 1 2 1 1 A 1 4 1 1 1 1 6 1 4 1 1 1 1 1 1 3 1 2 1 1 2 1 1",
  "1 1 1 1 1 1 1 1 2 1 1 2 4 1 7 1 4 1 4 1 1 1 A 1 11 5 3 1 5 1 11 34 2"]

/-- How many code points in turn lack and have the property Emoji. -/
def emojiText : List String := [
  "23 1 6 1 5 A 6F 1 4 1 1F8D 1 C 1 D8 1 16 1 5A 6 F 2 16F 2 C 1 A6 1 19 B 4 3 C7 1 E7 2 A 1 9",
  "1 3A 4 1 5 9 1 2 1 2 2 2 1 4 1 2 1 1 2 2 1 3 1 3 2 8 3 5 1 1 1 5 C B 2 2 1 1 2 1 1 12 1 2 2",
  "12 6 1 1 1 2 3 2 5 1 2 2 4 2 B 2 5 2 2 1 5 2 1 1 1 2 14 2 5 6 1 4 2 1 4 1 2 1 2 6 1 1 2 1 1",
  "1 1 1 6 1 3 1 6 1 A 2 F 1 2 1 4 1 1 1 4 3 1 1 B 2 30 3 9 1 E 1 E 1 174 2 1CF 3 13 2 33 1 4 1",
  "4DA 1 C 1 259 1 1 1 1BD6A 1 CA 1 A0 2 C 2 E 1 2 A 4B 1A 1 2 17 1 14 1 2 9 15 2 AE 22 2 70 2",
  "2 1 3 2 53 2 3 1 107 1 3F B 6 1 18 7 2 2 8 C 1 2 4 2 1 4 2 D 2 2 1 8 2 9 1 5 3 C 3 8 3 2 1 1",
  "1 4 1 6 1 3 1 6 56 30 46 5 8 2 3 4 A 3 1 1 2 3 1 2 A E3 C 4 1 11B 2F 1 A 1 B9 70 D 3 9 7 2E",
  "1 7 8 E 4 9 7 9"]

/-- How many code points in turn lack and have the property Ideographic. -/
def ideographicText : List String := [
  "3006 2 19 9 E 3 3C5 19C0 40 5200 5900 16E 2 6A 750A 1 1B 17F8 8 4D6 2A 9 2467 18C 4D04 A6E0",
  "20 103A 6 DE 2 1682 E 1D31 C1F 21E 5E2 134B 5 1060"]

/-- How many code points in turn lack and have the property Dash. -/
def dashText : List String := [
  "2D 1 55C 1 33 1 E41 1 405 1 809 6 3D 1 27 1 F 1 186 1 C04 1 2 1 1F 2 4 1 1C 1 1BE 1 13 1 6F",
  "1 CD90 2 25 1 A 1 A9 1 F9F 1"]

/-- How many code points in turn lack and have the property XID_Start. -/
def xidStartText : List String := [
  "41 1A 6 1A 2F 1 A 1 4 1 5 17 1 1F 1 1CA 4 C E 5 7 1 1 1 81 5 1 2 3 3 1 1 6 1 1 3 1 1 1 14 1",
  "53 1 8B 8 A6 1 26 2 1 6 29 47 1B 4 4 2D 2B 23 2 1 63 1 1 F 2 7 2 A 3 2 1 10 1 1 1E 1D 59 B 1",
  "18 21 9 2 4 1 5 16 4 1 9 1 3 1 17 19 7 B 5 18 1 6 11 2A 3A 36 3 1 12 1 7 A F 10 4 8 2 2 2 16",
  "1 7 1 1 3 4 3 1 10 1 D 2 1 3 E 2 A 1 8 6 4 2 2 16 1 7 1 2 1 2 1 2 1F 4 1 1 13 3 10 9 1 3 1",
  "16 1 7 1 2 1 5 3 1 12 1 F 2 17 1 B 8 2 2 2 16 1 7 1 2 1 5 3 1 1E 2 1 3 F 1 11 1 1 6 3 3 1 4",
  "3 2 1 1 1 2 3 2 3 3 3 C 16 1 34 8 1 3 1 17 1 10 3 1 1A 3 2 1 2 2 1E 1 4 8 1 3 1 17 1 A 1 5 3",
  "1 1F 2 1 2 F 2 11 9 1 3 1 29 2 1 10 1 5 3 8 3 18 6 5 12 3 18 1 9 1 1 2 7 3A 30 1 1 D 7 3A 2",
  "1 1 1 5 1 18 1 1 1 A 1 1 A 1 2 5 1 1 15 4 20 1 3F 8 1 24 1B 5 73 2B 14 1 10 6 4 4 3 1 3 2 7",
  "3 4 D C 1 11 26 1 1 5 1 2 2B 1 14D 1 4 2 7 1 1 1 4 2 29 1 4 2 21 1 4 2 7 1 1 1 4 2 F 1 39 1",
  "4 2 43 25 10 10 56 2 6 3 26C 2 11 1 1A 5 4B 3 B 7 12 D 13 E 12 E D 1 3 F 34 23 1 4 1 43 59 7",
  "29 1 1 5 46 A 1F 31 1E 2 5 B 2C 4 1A 36 17 9 35 52 1 5D 2F 11 8 36 1E D 2 A 2C 1A 24 29 3 A",
  "24 2 9 7 2B 2 3 29 4 1 6 1 2 3 1 5 C0 40 116 2 6 2 26 2 6 2 8 1 1 1 1 1 1 1 1F 2 35 1 7 1 1",
  "3 3 1 7 3 4 2 6 4 D 5 3 1 7 74 1 D 1 10 D 65 1 4 1 2 A 1 1 2 6 6 1 1 1 1 1 1 10 2 4 5 5 4 1",
  "11 29 A77 E5 6 4 3 2 C 26 1 1 5 1 2 38 7 1 10 17 9 7 1 7 1 7 1 7 1 7 1 7 1 7 1 7 226 3 19 9",
  "7 5 2 5 4 56 6 3 1 5A 1 4 5 2B 1 5E 11 20 30 10 200 19C0 40 568D 43 2E 2 10D 3 10 A 2 14 2F",
  "10 1F 2 50 27 9 2 67 2 40 5 2 1 1 1 5 18 10 1 3 1 4 1 17 1D 34 E 32 3E 6 3 1 1 2 B 1C A 17",
  "19 1D 7 2F 1C 1 10 5 1 A A 5 1 29 17 3 1 8 14 17 3 1 3 32 1 1 3 2 2 5 2 1 1 1 18 3 2 B 7 3 C",
  "6 2 6 2 6 9 7 1 7 1 2B 1 E 6 73 1D 2BA4 C 17 4 31 2104 16E 2 6A 26 7 C 5 5 1 1 A 1 D 1 5 1 1",
  "1 2 1 2 1 6C 21 8B 6 DA 12 40 2 36 28 A 77 1 1 1 3 1 1 1 1 1 1 1 1 7E 24 1A 6 1A B 38 2 1F 3",
  "6 2 6 2 6 2 3 23 C 1 1A 1 13 1 2 1 F 2 E 22 7B 45 35 10B 1D 3 31 2F 20 D 1E 5 26 A 1E 2 24 4",
  "8 1 5 2A 9E 12 24 4 24 4 28 8 34 C B 1 F 1 7 1 2 1 B 1 F 1 7 1 2 43 137 9 16 A 8 18 6 1 2A 1",
  "9 45 6 2 1 1 2C 1 2 3 1 2 17 A 17 9 1F 41 13 1 2 A 16 A 1A 46 38 6 2 40 1 F 4 1 3 1 1D 2A 1D",
  "3 1D 23 8 1 1C 1B 36 A 16 A 13 D 12 6E 49 37 33 D 33 D 24 15C 2A 6 2 4E 1D A 1 8 16 2A 12 2E",
  "15 1B 17 C 35 39 2 2 1 D 2D 20 19 1A 24 1D 1 2 1 8 23 3 1 C 30 E 4 15 1 1 1 23 12 1 19 13 2",
  "3F 7 1 1 1 4 1 F 1 A 7 2F 26 8 2 2 2 16 1 7 1 2 1 5 3 1 12 1 C 5 9E 35 12 4 14 3 1E 30 14 2",
  "1 1 B8 2F 29 4 24 30 14 1 3B 2B D 1 47 1B 25 7 B9 2C 74 40 1F 8 2 1 2 8 1 2 1 18 F 1 1 1 5E",
  "8 2 27 10 1 1 1 1C 1 A 28 7 1 15 1 B 2E 13 1 12 49 107 9 1 25 11 1 31 1E 70 7 1 2 1 26 15 1",
  "19 6 1 2 1 20 E 1 147 13 F 1 1 D 1 22 7C 1 4F 39A 66 6F 11 C4 A4C 61 F 430 11 6 FB9 247 21B9",
  "239 7 1F 11 4F 11 1E 12 30 10 4 1F 15 5 13 2B0 40 80 4B 5 1 42 D 40 2 1 1 1C 17F8 8 4D6 2A 9",
  "22E7 4 1 7 1 2 1 123 F 1 1D 3 2 1 E 4 8 18C 904 6B 5 D 3 9 7 A 1766 55 1 47 1 2 2 1 2 2 2 4",
  "1 C 1 1 1 7 1 41 1 4 2 8 1 7 1 1C 1 4 1 5 1 1 3 7 1 154 2 19 1 19 1 1F 1 19 1 1F 1 19 1 1F 1",
  "19 1 1F 1 19 1 8 734 1F 6 6 105 3E 92 2D A 7 10 1 141 1E 12 2C 1E4 1C 2F4 7 1 4 1 2 1 F 1 C5",
  "3B 44 7 1 4B4 4 1 1B 1 2 1 1 2 1 1 A 1 4 1 1 1 1 6 1 4 1 1 1 1 1 1 3 1 2 1 1 2 1 1 1 1 1 1 1",
  "1 1 1 2 1 1 2 4 1 7 1 4 1 4 1 1 1 A 1 11 5 3 1 5 1 11 1144 A6E0 20 103A 6 DE 2 1682 E 1D31",
  "C1F 21E 5E2 134B 5 1060"]

/-- How many code points in turn lack and have the property XID_Continue. -/
def xidContinueText : List String := [
  "30 A 7 1A 4 1 1 1A 2F 1 A 1 1 1 2 1 5 17 1 1F 1 1CA 4 C E 5 7 1 1 1 11 75 1 2 3 3 1 1 6 5 1",
  "1 1 14 1 53 1 8B 1 5 2 A6 1 26 2 1 6 29 8 2D 1 1 1 2 1 2 1 1 8 1B 4 4 1D B 5 4A 4 66 1 8 2 A",
  "1 13 2 1 10 3B 2 65 E 36 4 1 2 1 2 2E 12 1C 4 B 5 18 1 6 9 4A 1 81 2 A 1 13 1 8 2 2 2 16 1 7",
  "1 1 3 4 2 9 2 2 2 4 8 1 4 2 1 5 2 C A 1 1 1 2 3 1 6 4 2 2 16 1 7 1 2 1 2 1 2 2 1 1 5 4 2 2 3",
  "3 1 7 4 1 1 7 10 B 3 1 9 1 3 1 16 1 7 1 2 1 5 2 A 1 3 1 3 2 1 F 4 2 A 9 7 1 3 1 8 2 2 2 16 1",
  "7 1 2 1 5 2 9 2 2 2 3 7 3 4 2 1 5 2 A 1 1 10 2 1 6 3 3 1 4 3 2 1 1 1 2 3 2 3 3 3 C 4 5 3 3 1",
  "4 2 1 6 1 E A 10 D 1 3 1 17 1 10 2 9 1 3 1 4 7 2 1 3 2 1 2 4 2 A 10 4 1 8 1 3 1 17 1 A 1 5 2",
  "9 1 3 1 4 7 2 6 2 1 4 2 A 1 3 C D 1 3 1 33 1 3 1 5 5 4 7 5 2 A A 6 1 3 1 12 3 18 1 9 1 1 2 7",
  "3 1 4 6 1 1 1 8 6 A 2 2 D 3A 5 F 1 A 27 2 1 1 1 5 1 18 1 1 1 17 2 5 1 1 1 7 1 A 2 4 20 1 17",
  "2 6 A B 1 1 1 1 1 4 A 1 24 4 14 1 12 1 24 9 1 39 4A 6 4E 2 26 1 1 5 1 2 2B 1 14D 1 4 2 7 1 1",
  "1 4 2 29 1 4 2 21 1 4 2 7 1 1 1 4 2 F 1 39 1 4 2 43 2 3 9 9 E 10 10 56 2 6 3 26C 2 11 1 1A 5",
  "4B 3 B 7 16 9 16 B 14 C D 1 3 1 2 C 54 3 1 4 2 2 A 21 3 1 B 6 59 7 2B 5 46 A 1F 1 C 4 C A 28",
  "2 5 B 2C 4 1A 6 B 25 1C 4 3F 1 1D 2 B 6 A D 1 8 E 1 10 31 4D 3 A 11 9 C 74 C 38 8 A 3 31 2 9",
  "7 2B 2 3 10 3 1 27 5 216 2 6 2 26 2 6 2 8 1 1 1 1 1 1 1 1F 2 35 1 7 1 1 3 3 1 7 3 4 2 6 4 D",
  "5 3 1 7 42 2 13 1 1C 1 D 1 10 D 33 D 4 1 3 C 11 1 4 1 2 A 1 1 2 6 6 1 1 1 1 1 1 10 2 4 5 5 4",
  "1 11 29 A77 E5 6 9 C 26 1 1 5 1 2 38 7 1 F 18 9 7 1 7 1 7 1 7 1 7 1 7 1 7 1 7 1 20 205 3 19",
  "F 1 5 2 5 4 56 2 2 2 3 1 5A 1 4 5 2B 1 5E 11 20 30 10 200 19C0 40 568D 43 2E 2 10D 3 1C 14",
  "30 4 A 1 73 25 9 2 67 2 40 5 2 1 1 1 5 18 36 4 1 13 34 C 46 A A 6 18 3 1 1 31 2 24 C 1D 3 41",
  "E B 6 1F 1 37 9 E 2 A 6 17 3 49 18 3 2 10 2 5 A 6 2 6 2 6 9 7 1 7 1 2B 1 E 6 7B 1 2 2 A 6",
  "2BA4 C 17 4 31 2104 16E 2 6A 26 7 C 5 5 C 1 D 1 5 1 1 1 2 1 2 1 6C 21 8B 6 DA 12 40 2 36 28",
  "A 6 10 10 10 3 2 18 3 21 1 1 1 3 1 1 1 1 1 1 1 1 7E 13 A 7 1A 4 1 1 1A B 59 3 6 2 6 2 6 2 3",
  "23 C 1 1A 1 13 1 2 1 F 2 E 22 7B 45 35 88 1 82 1D 3 31 F 1 1F 20 D 1E 5 2B 5 1E 2 24 4 8 1 5",
  "2A 9E 2 A 6 24 4 24 4 28 8 34 C B 1 F 1 7 1 2 1 B 1 F 1 7 1 2 43 137 9 16 A 8 18 6 1 2A 1 9",
  "45 6 2 1 1 2C 1 2 3 1 2 17 A 17 9 1F 41 13 1 2 A 16 A 1A 46 38 6 2 40 4 1 2 5 8 1 3 1 1D 2 3",
  "4 1 20 1D 3 1D 23 8 1 1E 19 36 A 16 A 13 D 12 6E 49 37 33 D 33 D 28 8 A 146 2A 1 2 3 2 4B 20",
  "A 1 8 21 1F 16 2A 15 1B 17 9 47 1F 10 9 3C 7 1 D 19 7 A 6 35 1 A 4 4 8 24 2 1 9 45 4 4 1 D 1",
  "1 23 12 1 25 6 4 3E 7 1 1 1 4 1 F 1 A 7 3B 5 A 6 4 1 8 2 2 2 16 1 7 1 2 1 5 1 A 2 2 2 3 2 1",
  "6 1 5 7 2 7 3 5 8B 4B 5 A 4 4 1E 46 1 1 8 A A6 36 2 9 17 6 22 41 3 1 B A 26 39 7 A 36 1B 2 F",
  "4 A 6 7 B9 3B 65 4A 15 8 2 1 2 8 1 2 1 1E 1 2 2 9 C A 46 8 2 2E 2 8 1 2 1B 3F 8 1 8 4A 3 1",
  "12 49 107 9 1 2D 1 9 F A 18 1E 2 16 1 E 49 7 1 2 1 2C 3 1 1 2 1 9 8 A 6 6 1 2 1 25 1 2 1 6 7",
  "A 136 17 9 11 1 29 3 5 D A 56 1 4F 39A 66 6F 11 C4 A4C 61 F 430 10 16 FAA 247 21B9 239 7 1F",
  "1 A 6 4F 1 A 6 1E 2 5 B 37 9 4 C A 9 15 5 13 2B0 40 80 4B 4 39 7 11 40 2 1 2 B 2 E 17F8 8",
  "4D6 2A 9 22E7 4 1 7 1 2 1 123 F 1 1D 3 2 1 E 4 8 18C 904 6B 5 D 3 9 7 A 3 2 1261 2E 2 17 21E",
  "5 3 6 8 8 2 7 1E 4 94 3 1BB 55 1 47 1 2 2 1 2 2 2 4 1 C 1 1 1 7 1 41 1 4 2 8 1 7 1 1C 1 4 1",
  "5 1 1 3 7 1 154 2 19 1 19 1 1F 1 19 1 1F 1 19 1 1F 1 19 1 1F 1 19 1 8 2 32 200 37 4 32 8 1 E",
  "1 16 5 1 F 450 1F 6 6 D5 7 1 11 2 7 1 2 1 5 5 3E 21 1 70 2D 3 E 2 A 4 1 141 1F 11 3A 1D6 2A",
  "2E6 7 1 4 1 2 1 F 1 C5 B 7 29 4C 4 A 4A6 4 1 1B 1 2 1 1 2 1 1 A 1 4 1 1 1 1 6 1 4 1 1 1 1 1",
  "1 3 1 2 1 1 2 1 1 1 1 1 1 1 1 1 1 2 1 1 2 4 1 7 1 4 1 4 1 1 1 A 1 11 5 3 1 5 1 11 D34 A 406",
  "A6E0 20 103A 6 DE 2 1682 E 1D31 C1F 21E 5E2 134B 5 1060 ADD50 F0"]

/-- How many code points in turn lack and have the property Join_Control. -/
def joinControlText : List String := [
  "200C 2"]

/-- How many code points in turn lack and have the property Quotation_Mark. -/
def quotationMarkText : List String := [
  "22 1 4 1 83 1 F 1 1F5C 8 19 2 E07 1 1C9 4 D 3 CE21 4 BD 1 4 1 5A 2"]

/-- The properties with their names in lower case without separators. -/
def propertyTexts : List (List String × List String) := [
  (["alpha", "alphabetic"], alphabeticText),
  (["lower", "lowercase"], lowercaseText),
  (["upper", "uppercase"], uppercaseText),
  (["wspace", "whitespace", "space"], whiteSpaceText),
  (["ahex", "asciihexdigit"], asciiHexDigitText),
  (["hex", "hexdigit"], hexDigitText),
  (["cased"], casedText),
  (["math"], mathText),
  (["emoji"], emojiText),
  (["ideo", "ideographic"], ideographicText),
  (["dash"], dashText),
  (["xids", "xidstart"], xidStartText),
  (["xidc", "xidcontinue"], xidContinueText),
  (["joinc", "joincontrol"], joinControlText),
  (["qmark", "quotationmark"], quotationMarkText)]

/-- The set of a binary property, by any of its names in lower case without separators. -/
def property? (name : String) : Option CharSet :=
  (propertyTexts.find? (·.1.contains name)).map fun e => ofToggles (readToggles e.2)

def alphabetic : CharSet := ofToggles (readToggles alphabeticText)

end LatencyHarness.Pattern.Unicode
