import Resources.Text.Composed

/-! Marks and joiners in domains: no name begins with a mark, and an invisible joiner stands only
where it changes the shape of its neighbours. Unicode 17. -/
namespace Resources.Domain

namespace Marks

/-- Membership changes at each of these code points. -/
def lines : List String :=
  ["300 340 342 343 346 34F 350 370 483 48A 591 5BE 5BF 5C0 5C1 5C3 5C4 5C6 5C7 5C8 610 61B 64B",
   "660 670 671 6D6 6DD 6DF 6E5 6E7 6E9 6EA 6EE 711 712 730 74B 7A6 7B1 7EB 7F4 7FD 7FE 816 81A",
   "81B 824 825 828 829 82E 859 85C 897 8A0 8CA 8E2 8E3 904 93A 93D 93E 950 951 958 962 964 981",
   "984 9BC 9BD 9BE 9C5 9C7 9C9 9CB 9CE 9D7 9D8 9E2 9E4 9FE 9FF A01 A04 A3C A3D A3E A43 A47 A49",
   "A4B A4E A51 A52 A70 A72 A75 A76 A81 A84 ABC ABD ABE AC6 AC7 ACA ACB ACE AE2 AE4 AFA B00 B01",
   "B04 B3C B3D B3E B45 B47 B49 B4B B4E B55 B58 B62 B64 B82 B83 BBE BC3 BC6 BC9 BCA BCE BD7 BD8",
   "C00 C05 C3C C3D C3E C45 C46 C49 C4A C4E C55 C57 C62 C64 C81 C84 CBC CBD CBE CC5 CC6 CC9 CCA",
   "CCE CD5 CD7 CE2 CE4 CF3 CF4 D00 D04 D3B D3D D3E D45 D46 D49 D4A D4E D57 D58 D62 D64 D81 D84",
   "DCA DCB DCF DD5 DD6 DD7 DD8 DE0 DF2 DF4 E31 E32 E34 E3B E47 E4F EB1 EB2 EB4 EBD EC8 ECF F18",
   "F1A F35 F36 F37 F38 F39 F3A F3E F40 F71 F73 F74 F75 F7A F81 F82 F85 F86 F88 F8D F93 F94 F98",
   "F99 F9D F9E FA2 FA3 FA7 FA8 FAC FAD FB9 FBA FBD FC6 FC7 102B 103F 1056 105A 105E 1061 1062",
   "1065 1067 106E 1071 1075 1082 108E 108F 1090 109A 109E 135D 1360 1712 1716 1732 1735 1752",
   "1754 1772 1774 17B6 17D4 17DD 17DE 1885 1887 18A9 18AA 1920 192C 1930 193C 1A17 1A1C 1A55",
   "1A5F 1A60 1A7D 1A7F 1A80 1AB0 1ADE 1AE0 1AEC 1B00 1B05 1B34 1B45 1B6B 1B74 1B80 1B83 1BA1",
   "1BAE 1BE6 1BF4 1C24 1C38 1CD0 1CD3 1CD4 1CE9 1CED 1CEE 1CF4 1CF5 1CF7 1CFA 1DC0 1E00 20D0",
   "20F1 2CEF 2CF2 2D7F 2D80 2DE0 2E00 302A 3030 3099 309B A66F A673 A674 A67E A69E A6A0 A6F0",
   "A6F2 A802 A803 A806 A807 A80B A80C A823 A828 A82C A82D A880 A882 A8B4 A8C6 A8E0 A8F2 A8FF",
   "A900 A926 A92E A947 A954 A980 A984 A9B3 A9C1 A9E5 A9E6 AA29 AA37 AA43 AA44 AA4C AA4E AA7B",
   "AA7E AAB0 AAB1 AAB2 AAB5 AAB7 AAB9 AABE AAC0 AAC1 AAC2 AAEB AAF0 AAF5 AAF7 ABE3 ABEB ABEC",
   "ABEE FB1E FB1F FE20 FE30 101FD 101FE 102E0 102E1 10376 1037B 10A01 10A04 10A05 10A07 10A0C",
   "10A10 10A38 10A3B 10A3F 10A40 10AE5 10AE7 10D24 10D28 10D69 10D6E 10EAB 10EAD 10EFA 10F00",
   "10F46 10F51 10F82 10F86 11000 11003 11038 11047 11070 11071 11073 11075 1107F 11083 110B0",
   "110BB 110C2 110C3 11100 11103 11127 11135 11145 11147 11173 11174 11180 11183 111B3 111C1",
   "111C9 111CD 111CE 111D0 1122C 11238 1123E 1123F 11241 11242 112DF 112EB 11300 11304 1133B",
   "1133D 1133E 11345 11347 11349 1134B 1134E 11357 11358 11362 11364 11366 1136D 11370 11375",
   "113B8 113C1 113C2 113C3 113C5 113C6 113C7 113CB 113CC 113D1 113D2 113D3 113E1 113E3 11435",
   "11447 1145E 1145F 114B0 114C4 115AF 115B6 115B8 115C1 115DC 115DE 11630 11641 116AB 116B8",
   "1171D 1172C 1182C 1183B 11930 11936 11937 11939 1193B 1193F 11940 11941 11942 11944 119D1",
   "119D8 119DA 119E1 119E4 119E5 11A01 11A0B 11A33 11A3A 11A3B 11A3F 11A47 11A48 11A51 11A5C",
   "11A8A 11A9A 11B60 11B68 11C2F 11C37 11C38 11C40 11C92 11CA8 11CA9 11CB7 11D31 11D37 11D3A",
   "11D3B 11D3C 11D3E 11D3F 11D46 11D47 11D48 11D8A 11D8F 11D90 11D92 11D93 11D98 11EF3 11EF7",
   "11F00 11F02 11F03 11F04 11F34 11F3B 11F3E 11F43 11F5A 11F5B 13440 13441 13447 13456 1611E",
   "16130 16AF0 16AF5 16B30 16B37 16F4F 16F50 16F51 16F88 16F8F 16F93 16FE4 16FE5 16FF0 16FF2",
   "1BC9D 1BC9F 1CF00 1CF2E 1CF30 1CF47 1D165 1D16A 1D16D 1D173 1D17B 1D183 1D185 1D18C 1D1AA",
   "1D1AE 1D242 1D245 1DA00 1DA37 1DA3B 1DA6D 1DA75 1DA76 1DA84 1DA85 1DA9B 1DAA0 1DAA1 1DAB0",
   "1E000 1E007 1E008 1E019 1E01B 1E022 1E023 1E025 1E026 1E02B 1E08F 1E090 1E130 1E137 1E2AE",
   "1E2AF 1E2EC 1E2F0 1E4EC 1E4F0 1E5EE 1E5F0 1E6E3 1E6E4 1E6E6 1E6E7 1E6EE 1E6F0 1E6F5 1E6F6",
   "1E8D0 1E8D7 1E944 1E94B"]

def changes : List Nat := CodePoints.numbers lines

/-- How a letter joins its neighbours in cursive script. -/
inductive Joining where
  | left
  | right
  | both
  | through
  deriving DecidableEq

/-- Letters by joining: first code point, count, and 0 left, 1 right, 2 both, 3 through. -/
def joiningLines : List String :=
  ["300 40 3 342 1 3 346 9 3 350 20 3 483 7 3 591 2D 3 5BF 1 3 5C1 2 3 5C4 2 3 5C7 1 3 610 B 3",
   "620 1 2 622 4 1 626 1 2 627 1 1 628 1 2 629 1 1 62A 5 2 62F 4 1 633 D 2 641 7 2 648 1 1 649",
   "2 2 64B 15 3 66E 2 2 670 1 3 671 3 1 679 F 2 688 12 1 69A 26 2 6C0 1 1 6C1 2 2 6C3 9 1 6CC 1",
   "2 6CD 1 1 6CE 1 2 6CF 1 1 6D0 2 2 6D2 2 1 6D5 1 1 6D6 7 3 6DF 6 3 6E7 2 3 6EA 4 3 6EE 2 1",
   "6FA 3 2 6FF 1 2 710 1 1 711 1 3 712 3 2 715 5 1 71A 4 2 71E 1 1 71F 9 2 728 1 1 729 1 2 72A",
   "1 1 72B 1 2 72C 1 1 72D 2 2 72F 1 1 730 1B 3 74D 1 1 74E B 2 759 3 1 75C F 2 76B 2 1 76D 4 2",
   "771 1 1 772 1 2 773 2 1 775 3 2 778 2 1 77A 6 2 7A6 B 3 7CA 21 2 7EB 9 3 7FD 1 3 816 4 3 81B",
   "9 3 825 3 3 829 5 3 840 1 1 841 5 2 846 2 1 848 1 2 849 1 1 84A A 2 854 1 1 855 1 2 856 3 1",
   "859 3 3 860 1 2 862 4 2 867 1 1 868 1 2 869 2 1 870 13 1 886 1 2 889 5 2 88E 1 1 88F 1 2 897",
   "9 3 8A0 A 2 8AA 3 1 8AE 1 1 8AF 2 2 8B1 2 1 8B3 6 2 8B9 1 1 8BA F 2 8CA 18 3 8E3 20 3 93A 1",
   "3 93C 1 3 941 8 3 94D 1 3 951 7 3 962 2 3 981 1 3 9BC 1 3 9C1 4 3 9CD 1 3 9E2 2 3 9FE 1 3",
   "A01 2 3 A3C 1 3 A41 2 3 A47 2 3 A4B 3 3 A51 1 3 A70 2 3 A75 1 3 A81 2 3 ABC 1 3 AC1 5 3 AC7",
   "2 3 ACD 1 3 AE2 2 3 AFA 6 3 B01 1 3 B3C 1 3 B3F 1 3 B41 4 3 B4D 1 3 B55 2 3 B62 2 3 B82 1 3",
   "BC0 1 3 BCD 1 3 C00 1 3 C04 1 3 C3C 1 3 C3E 3 3 C46 3 3 C4A 4 3 C55 2 3 C62 2 3 C81 1 3 CBC",
   "1 3 CBF 1 3 CC6 1 3 CCC 2 3 CE2 2 3 D00 2 3 D3B 2 3 D41 4 3 D4D 1 3 D62 2 3 D81 1 3 DCA 1 3",
   "DD2 3 3 DD6 1 3 E31 1 3 E34 7 3 E47 8 3 EB1 1 3 EB4 9 3 EC8 7 3 F18 2 3 F35 1 3 F37 1 3 F39",
   "1 3 F71 2 3 F74 1 3 F7A 5 3 F80 1 3 F82 3 3 F86 2 3 F8D 6 3 F94 4 3 F99 4 3 F9E 4 3 FA3 4 3",
   "FA8 4 3 FAD C 3 FBA 3 3 FC6 1 3 102D 4 3 1032 6 3 1039 2 3 103D 2 3 1058 2 3 105E 3 3 1071 4",
   "3 1082 1 3 1085 2 3 108D 1 3 109D 1 3 135D 3 3 1712 3 3 1732 2 3 1752 2 3 1772 2 3 17B7 7 3",
   "17C6 1 3 17C9 B 3 17DD 1 3 1807 1 2 1820 59 2 1885 2 3 1887 22 2 18A9 1 3 18AA 1 2 1920 3 3",
   "1927 2 3 1932 1 3 1939 3 3 1A17 2 3 1A1B 1 3 1A56 1 3 1A58 7 3 1A60 1 3 1A62 1 3 1A65 8 3",
   "1A73 A 3 1A7F 1 3 1AB0 2E 3 1AE0 C 3 1B00 4 3 1B34 1 3 1B36 5 3 1B3C 1 3 1B42 1 3 1B6B 9 3",
   "1B80 2 3 1BA2 4 3 1BA8 2 3 1BAB 3 3 1BE6 1 3 1BE8 2 3 1BED 1 3 1BEF 3 3 1C2C 8 3 1C36 2 3",
   "1CD0 3 3 1CD4 D 3 1CE2 7 3 1CED 1 3 1CF4 1 3 1CF8 2 3 1DC0 40 3 20D0 21 3 2CEF 3 3 2D7F 1 3",
   "2DE0 20 3 302A 4 3 3099 2 3 A66F 4 3 A674 A 3 A69E 2 3 A6F0 2 3 A802 1 3 A806 1 3 A80B 1 3",
   "A825 2 3 A82C 1 3 A840 32 2 A872 1 0 A8C4 2 3 A8E0 12 3 A8FF 1 3 A926 8 3 A947 B 3 A980 3 3",
   "A9B3 1 3 A9B6 4 3 A9BC 2 3 A9E5 1 3 AA29 6 3 AA31 2 3 AA35 2 3 AA43 1 3 AA4C 1 3 AA7C 1 3",
   "AAB0 1 3 AAB2 3 3 AAB7 2 3 AABE 2 3 AAC1 1 3 AAEC 2 3 AAF6 1 3 ABE5 1 3 ABE8 1 3 ABED 1 3",
   "FB1E 1 3 FE20 10 3 101FD 1 3 102E0 1 3 10376 5 3 10A01 3 3 10A05 2 3 10A0C 4 3 10A38 3 3",
   "10A3F 1 3 10AC0 5 2 10AC5 1 1 10AC7 1 1 10AC9 2 1 10ACD 1 0 10ACE 5 1 10AD3 4 2 10AD7 1 0",
   "10AD8 5 2 10ADD 1 1 10ADE 3 2 10AE1 1 1 10AE4 1 1 10AE5 2 3 10AEB 4 2 10AEF 1 1 10B80 1 2",
   "10B81 1 1 10B82 1 2 10B83 3 1 10B86 3 2 10B89 1 1 10B8A 2 2 10B8C 1 1 10B8D 1 2 10B8E 2 1",
   "10B90 1 2 10B91 1 1 10BA9 4 1 10BAD 2 2 10D00 1 0 10D01 21 2 10D22 1 1 10D23 1 2 10D24 4 3",
   "10D69 5 3 10EAB 2 3 10EC2 1 1 10EC3 2 2 10EC6 2 2 10EFA 6 3 10F30 3 2 10F33 1 1 10F34 11 2",
   "10F46 B 3 10F51 3 2 10F54 1 1 10F70 4 2 10F74 2 1 10F76 C 2 10F82 4 3 10FB0 1 2 10FB2 2 2",
   "10FB4 3 1 10FB8 1 2 10FB9 2 1 10FBB 2 2 10FBD 1 1 10FBE 2 2 10FC1 1 2 10FC2 2 1 10FC4 1 2",
   "10FC9 1 1 10FCA 1 2 10FCB 1 0 11001 1 3 11038 F 3 11070 1 3 11073 2 3 1107F 3 3 110B3 4 3",
   "110B9 2 3 110C2 1 3 11100 3 3 11127 5 3 1112D 8 3 11173 1 3 11180 2 3 111B6 9 3 111C9 4 3",
   "111CF 1 3 1122F 3 3 11234 1 3 11236 2 3 1123E 1 3 11241 1 3 112DF 1 3 112E3 8 3 11300 2 3",
   "1133B 2 3 11340 1 3 11366 7 3 11370 5 3 113BB 6 3 113CE 1 3 113D0 1 3 113D2 1 3 113E1 2 3",
   "11438 8 3 11442 3 3 11446 1 3 1145E 1 3 114B3 6 3 114BA 1 3 114BF 2 3 114C2 2 3 115B2 4 3",
   "115BC 2 3 115BF 2 3 115DC 2 3 11633 8 3 1163D 1 3 1163F 2 3 116AB 1 3 116AD 1 3 116B0 6 3",
   "116B7 1 3 1171D 1 3 1171F 1 3 11722 4 3 11727 5 3 1182F 9 3 11839 2 3 1193B 2 3 1193E 1 3",
   "11943 1 3 119D4 4 3 119DA 2 3 119E0 1 3 11A01 A 3 11A33 6 3 11A3B 4 3 11A47 1 3 11A51 6 3",
   "11A59 3 3 11A8A D 3 11A98 2 3 11B60 1 3 11B62 3 3 11B66 1 3 11C30 7 3 11C38 6 3 11C3F 1 3",
   "11C92 16 3 11CAA 7 3 11CB2 2 3 11CB5 2 3 11D31 6 3 11D3A 1 3 11D3C 2 3 11D3F 7 3 11D47 1 3",
   "11D90 2 3 11D95 1 3 11D97 1 3 11EF3 2 3 11F00 2 3 11F36 5 3 11F40 1 3 11F42 1 3 11F5A 1 3",
   "13440 1 3 13447 F 3 1611E C 3 1612D 3 3 16AF0 5 3 16B30 7 3 16F4F 1 3 16F8F 4 3 16FE4 1 3",
   "1BC9D 2 3 1CF00 2E 3 1CF30 17 3 1D167 3 3 1D17B 8 3 1D185 7 3 1D1AA 4 3 1D242 3 3 1DA00 37 3",
   "1DA3B 32 3 1DA75 1 3 1DA84 1 3 1DA9B 5 3 1DAA1 F 3 1E000 7 3 1E008 11 3 1E01B 7 3 1E023 2 3",
   "1E026 5 3 1E08F 1 3 1E130 7 3 1E2AE 1 3 1E2EC 4 3 1E4EC 4 3 1E5EE 2 3 1E6E3 1 3 1E6E6 1 3",
   "1E6EE 2 3 1E6F5 1 3 1E8D0 7 3 1E922 22 2 1E944 8 3"]

def joinings : List (Nat × Nat × Nat) := Composed.triplesOf (CodePoints.numbers joiningLines)

def joining? (c : Char) : Option Joining :=
  (joinings.find? fun (first, count, _) => first ≤ c.toNat && c.toNat < first + count).bind
    fun (_, _, k) => [Joining.left, .right, .both, .through][k]?

def halant : Nat := 9

/-- Does the nearest letter join towards the joiner? -/
def joins (towards : Joining) (neighbours : List Char) : Bool :=
  match neighbours.dropWhile fun c => joining? c = some .through with
  | c :: _ => joining? c = some .both || joining? c = some towards
  | [] => false

/-- The text before is latest first. -/
def joinersFit (before : List Char) : List Char → Bool
  | [] => true
  | c :: r =>
    let fits :=
      if c = '\u200c' ∨ c = '\u200d' then
        before.head?.any (fun p => Composed.markClass p = halant) ||
          (c = '\u200c' && joins .left before && joins .right r)
      else true
    fits && joinersFit (c :: before) r

end Marks

def isMark (c : Char) : Bool := CodePoints.within Marks.changes c.toNat

/-- Are the marks and joiners of a label in their place? -/
def marksFit (label : List Char) : Bool :=
  !(label.head?.any isMark) && Marks.joinersFit [] label

end Resources.Domain
