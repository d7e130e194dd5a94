import SnapshotFeed.Unicode.Table

/-! How a letter of a cursive script joins its neighbours. -/
namespace SnapshotFeed.Unicode

inductive Joining where
  /-- It joins nothing. -/
  | none
  | left
  | right
  | both
  /-- It makes both neighbours join. -/
  | causing
  /-- Its neighbours join as if it were not there. -/
  | transparent
  deriving DecidableEq, Repr

def Joining.ofWord? : String → Option Joining
  | "U" => some .none
  | "L" => some .left
  | "R" => some .right
  | "D" => some .both
  | "C" => some .causing
  | "T" => some .transparent
  | _ => .none

/-- How the characters a domain name may have join. -/
def joinings : Table Joining := .ofText Joining.ofWord? "
0 U 300 T 371 U 483 T 48b U 591 T 5be U 5bf T 5c0 U 5c1 T 5c3 U 5c4 T 5c6 U 5c7 T 5d0 U 610 T 61b U
620 D 621 U 622 R 626 D 627 R 628 D 629 R 62a D 62f R 633 D 640 C 641 D 648 R 649 D 64b T 660 U
66e D 670 T 671 R 674 U 679 D 688 R 69a D 6c0 R 6c1 D 6c3 R 6cc D 6cd R 6ce D 6cf R 6d0 D 6d2 R
6d4 U 6d5 R 6d6 T 6de U 6df T 6e5 U 6e7 T 6e9 U 6ea T 6ee R 6f0 U 6fa D 6fd U 6ff D 700 U 710 R
711 T 712 D 715 R 71a D 71e R 71f D 728 R 729 D 72a R 72b D 72c R 72d D 72f R 730 T 74d R 74e D
759 R 75c D 76b R 76d D 771 R 772 D 773 R 775 D 778 R 77a D 780 U 7a6 T 7b1 U 7ca D 7eb T 7f4 U
7fa C 7fd T 7fe U 816 T 81a U 81b T 824 U 825 T 828 U 829 T 830 U 840 R 841 D 846 R 848 D 849 R
84a D 854 R 855 D 856 R 859 T 85e U 860 D 861 U 862 D 866 U 867 R 868 D 869 R 883 C 886 D 887 U
889 D 88e R 88f D 897 T 8a0 D 8aa R 8ad U 8ae R 8af D 8b1 R 8b3 D 8b9 R 8ba D 8c9 U 8ca T 903 U
93a T 93b U 93c T 93d U 941 T 949 U 94d T 94e U 951 T 960 U 962 T 964 U 981 T 982 U 9bc T 9bd U
9c1 T 9c7 U 9cd T 9ce U 9e2 T 9e6 U 9fe T a03 U a3c T a3e U a41 T a5c U a70 T a72 U a75 T a76 U
a81 T a83 U abc T abd U ac1 T ac9 U acd T ad0 U ae2 T ae6 U afa T b02 U b3c T b3d U b3f T b40 U
b41 T b47 U b4d T b57 U b62 T b66 U b82 T b83 U bc0 T bc1 U bcd T bd0 U c00 T c01 U c04 T c05 U
c3c T c3d U c3e T c41 U c46 T c58 U c62 T c66 U c81 T c82 U cbc T cbd U cbf T cc0 U cc6 T cc7 U
ccc T cd5 U ce2 T ce6 U d00 T d02 U d3b T d3d U d41 T d46 U d4d T d4e U d62 T d66 U d81 T d82 U
dca T dcf U dd2 T dd8 U e31 T e32 U e34 T e3f U e47 T e4f U eb1 T eb2 U eb4 T ebd U ec8 T ed0 U
f18 T f1a U f35 T f36 U f37 T f38 U f39 T f3a U f71 T f7f U f80 T f85 U f86 T f88 U f8d T fbe U
fc6 T fc7 U 102d T 1031 U 1032 T 1038 U 1039 T 103b U 103d T 103f U 1058 T 105a U 105e T 1061 U
1071 T 1075 U 1082 T 1083 U 1085 T 1087 U 108d T 108e U 109d T 109e U 135d T 1360 U 1712 T 1715 U
1732 T 1734 U 1752 T 1760 U 1772 T 1780 U 17b7 T 17be U 17c6 T 17c7 U 17c9 T 17d4 U 17dd T 17e0 U
1807 D 1808 U 180a C 1810 U 1820 D 1880 U 1885 T 1887 D 18a9 T 18aa D 18b0 U 1920 T 1923 U 1927 T
1929 U 1932 T 1933 U 1939 T 1940 U 1a17 T 1a19 U 1a1b T 1a1e U 1a56 T 1a57 U 1a58 T 1a61 U 1a62 T
1a63 U 1a65 T 1a6d U 1a73 T 1a80 U 1ab0 T 1b04 U 1b34 T 1b35 U 1b36 T 1b3b U 1b3c T 1b3d U 1b42 T
1b43 U 1b6b T 1b74 U 1b80 T 1b82 U 1ba2 T 1ba6 U 1ba8 T 1baa U 1bab T 1bae U 1be6 T 1be7 U 1be8 T
1bea U 1bed T 1bee U 1bef T 1bf2 U 1c2c T 1c34 U 1c36 T 1c3b U 1cd0 T 1cd3 U 1cd4 T 1ce1 U 1ce2 T
1ce9 U 1ced T 1cee U 1cf4 T 1cf5 U 1cf8 T 1cfa U 1dc0 T 1e01 U 200d C 2010 U 20d0 T 2104 U 2cef T
2cf3 U 2d7f T 2d80 U 2de0 T 2e00 U 302a T 302e U 3099 T 309d U a66f T a673 U a674 T a67e U a69e T
a6a0 U a6f0 T a6f2 U a802 T a803 U a806 T a807 U a80b T a80c U a825 T a827 U a82c T a830 U a840 D
a872 L a873 U a8c4 T a8ce U a8e0 T a8f2 U a8ff T a900 U a926 T a92e U a947 T a952 U a980 T a983 U
a9b3 T a9b4 U a9b6 T a9ba U a9bc T a9be U a9e5 T a9e6 U aa29 T aa2f U aa31 T aa33 U aa35 T aa40 U
aa43 T aa44 U aa4c T aa4d U aa7c T aa7d U aab0 T aab1 U aab2 T aab5 U aab7 T aab9 U aabe T aac0 U
aac1 T aac2 U aaec T aaee U aaf6 T ab01 U abe5 T abe6 U abe8 T abe9 U abed T abf0 U fb1e T fbb2 U
fe20 T fe45 U 101fd T 10280 U 102e0 T 102e1 U 10376 T 10380 U 10a01 T 10a10 U 10a38 T 10a40 U
10ac0 D 10ac5 R 10ac6 U 10ac7 R 10ac8 U 10ac9 R 10acb U 10acd L 10ace R 10ad3 D 10ad7 L 10ad8 D
10add R 10ade D 10ae1 R 10ae2 U 10ae4 R 10ae5 T 10aeb D 10aef R 10af0 U 10b80 D 10b81 R 10b82 D
10b83 R 10b86 D 10b89 R 10b8a D 10b8c R 10b8d D 10b8e R 10b90 D 10b91 R 10b99 U 10ba9 R 10bad D
10baf U 10d00 L 10d01 D 10d22 R 10d23 D 10d24 T 10d30 U 10d69 T 10d6e U 10eab T 10ead U 10ec2 R
10ec3 D 10ec5 U 10ec6 D 10ed0 U 10efa T 10f00 U 10f30 D 10f33 R 10f34 D 10f45 U 10f46 T 10f51 D
10f54 R 10f55 U 10f70 D 10f74 R 10f76 D 10f82 T 10f86 U 10fb0 D 10fb1 U 10fb2 D 10fb4 R 10fb7 U
10fb8 D 10fb9 R 10fbb D 10fbd R 10fbe D 10fc0 U 10fc1 D 10fc2 R 10fc4 D 10fc5 U 10fc9 R 10fca D
10fcb L 10fe0 U 11001 T 11002 U 11038 T 11047 U 11070 T 11071 U 11073 T 11075 U 1107f T 11082 U
110b3 T 110b7 U 110b9 T 110bb U 110c2 T 110d0 U 11100 T 11103 U 11127 T 1112c U 1112d T 11136 U
11173 T 11174 U 11180 T 11182 U 111b6 T 111bf U 111c9 T 111cd U 111cf T 111d0 U 1122f T 11232 U
11234 T 11235 U 11236 T 11238 U 1123e T 1123f U 11241 T 11280 U 112df T 112e0 U 112e3 T 112f0 U
11300 T 11302 U 1133b T 1133d U 11340 T 11341 U 11366 T 11380 U 113bb T 113c2 U 113ce T 113cf U
113d0 T 113d1 U 113d2 T 113d3 U 113e1 T 11400 U 11438 T 11440 U 11442 T 11445 U 11446 T 11447 U
1145e T 1145f U 114b3 T 114b9 U 114ba T 114bb U 114bf T 114c1 U 114c2 T 114c4 U 115b2 T 115b8 U
115bc T 115be U 115bf T 115c1 U 115dc T 11600 U 11633 T 1163b U 1163d T 1163e U 1163f T 11641 U
116ab T 116ac U 116ad T 116ae U 116b0 T 116b6 U 116b7 T 116b8 U 1171d T 1171e U 1171f T 11720 U
11722 T 11726 U 11727 T 11730 U 1182f T 11838 U 11839 T 1183b U 1193b T 1193d U 1193e T 1193f U
11943 T 11944 U 119d4 T 119dc U 119e0 T 119e1 U 11a01 T 11a0b U 11a33 T 11a39 U 11a3b T 11a3f U
11a47 T 11a50 U 11a51 T 11a57 U 11a59 T 11a5c U 11a8a T 11a97 U 11a98 T 11a9a U 11b60 T 11b61 U
11b62 T 11b65 U 11b66 T 11b67 U 11c30 T 11c3e U 11c3f T 11c40 U 11c92 T 11ca9 U 11caa T 11cb1 U
11cb2 T 11cb4 U 11cb5 T 11d00 U 11d31 T 11d46 U 11d47 T 11d50 U 11d90 T 11d93 U 11d95 T 11d96 U
11d97 T 11d98 U 11ef3 T 11ef5 U 11f00 T 11f02 U 11f36 T 11f3e U 11f40 T 11f41 U 11f42 T 11f43 U
11f5a T 11fb0 U 13440 T 13441 U 13447 T 13460 U 1611e T 1612a U 1612d T 16130 U 16af0 T 16af5 U
16b30 T 16b37 U 16f4f T 16f50 U 16f8f T 16f93 U 16fe4 T 16ff0 U 1bc9d T 1bc9f U 1cf00 T 1cf50 U
1d167 T 1d16a U 1d17b T 1d183 U 1d185 T 1d18c U 1d1aa T 1d1ae U 1d242 T 1d245 U 1da00 T 1da37 U
1da3b T 1da6d U 1da75 T 1da76 U 1da84 T 1da85 U 1da9b T 1df00 U 1e000 T 1e100 U 1e130 T 1e137 U
1e2ae T 1e2c0 U 1e2ec T 1e2f0 U 1e4ec T 1e4f0 U 1e5ee T 1e5f0 U 1e6e3 T 1e6e4 U 1e6e6 T 1e6e7 U
1e6ee T 1e6f0 U 1e6f5 T 1e6fe U 1e8d0 T 1e922 D 1e944 T 1e950 U"

def joining (c : Char) : Joining := (joinings.get? c.toNat).getD .none

end SnapshotFeed.Unicode
