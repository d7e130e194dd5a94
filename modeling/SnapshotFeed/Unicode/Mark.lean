import SnapshotFeed.Unicode.Table

/-! Marks: characters that belong to the one before them. -/
namespace SnapshotFeed.Unicode

def markOfWord? : String → Option Bool
  | "M" => some true
  | "-" => some false
  | _ => none

/-- Which of the characters a domain name may have are marks. -/
def marks : Table Bool := .ofText markOfWord? "
0 - 300 M 371 - 483 M 48b - 591 M 5be - 5bf M 5c0 - 5c1 M 5c3 - 5c4 M 5c6 - 5c7 M 5d0 - 610 M 61b -
64b M 660 - 670 M 671 - 6d6 M 6de - 6df M 6e5 - 6e7 M 6e9 - 6ea M 6ee - 711 M 712 - 730 M 74d -
7a6 M 7b1 - 7eb M 7f4 - 7fd M 7fe - 816 M 81a - 81b M 824 - 825 M 828 - 829 M 830 - 859 M 85e -
897 M 8a0 - 8ca M 904 - 93a M 93d - 93e M 950 - 951 M 960 - 962 M 964 - 981 M 985 - 9bc M 9bd -
9be M 9ce - 9d7 M 9e0 - 9e2 M 9e6 - 9fe M a05 - a3c M a5c - a70 M a72 - a75 M a76 - a81 M a85 -
abc M abd - abe M ad0 - ae2 M ae6 - afa M b05 - b3c M b3d - b3e M b5f - b62 M b66 - b82 M b83 -
bbe M bd0 - bd7 M be6 - c00 M c05 - c3c M c3d - c3e M c58 - c62 M c66 - c81 M c84 - cbc M cbd -
cbe M cdc - ce2 M ce6 - cf3 M d04 - d3b M d3d - d3e M d4e - d57 M d58 - d62 M d66 - d81 M d85 -
dca M de6 - df2 M df4 - e31 M e32 - e34 M e3f - e47 M e4f - eb1 M eb2 - eb4 M ebd - ec8 M ed0 -
f18 M f1a - f35 M f36 - f37 M f38 - f39 M f3a - f3e M f40 - f71 M f85 - f86 M f88 - f8d M fbe -
fc6 M fc7 - 102b M 103f - 1056 M 105a - 105e M 1061 - 1062 M 1065 - 1067 M 106e - 1071 M 1075 -
1082 M 108e - 108f M 1090 - 109a M 109e - 135d M 1360 - 1712 M 171f - 1732 M 1735 - 1752 M 1760 -
1772 M 1780 - 17b6 M 17d4 - 17dd M 17e0 - 1885 M 1887 - 18a9 M 18aa - 1920 M 1940 - 1a17 M 1a1e -
1a55 M 1a80 - 1ab0 M 1b05 - 1b34 M 1b45 - 1b6b M 1b74 - 1b80 M 1b83 - 1ba1 M 1bae - 1be6 M 1bfc -
1c24 M 1c3b - 1cd0 M 1cd3 - 1cd4 M 1ce9 - 1ced M 1cee - 1cf4 M 1cf5 - 1cf7 M 1cfa - 1dc0 M 1e01 -
20d0 M 2104 - 2cef M 2cf3 - 2d7f M 2d80 - 2de0 M 2e00 - 302a M 3030 - 3099 M 309d - a66f M a673 -
a674 M a67e - a69e M a6a0 - a6f0 M a6f2 - a802 M a803 - a806 M a807 - a80b M a80c - a823 M a828 -
a82c M a830 - a880 M a882 - a8b4 M a8ce - a8e0 M a8f2 - a8ff M a900 - a926 M a92e - a947 M a95f -
a980 M a984 - a9b3 M a9c1 - a9e5 M a9e6 - aa29 M aa40 - aa43 M aa44 - aa4c M aa50 - aa7b M aa7e -
aab0 M aab1 - aab2 M aab5 - aab7 M aab9 - aabe M aac0 - aac1 M aac2 - aaeb M aaf0 - aaf5 M ab01 -
abe3 M abeb - abec M abf0 - fb1e M fbb2 - fe20 M fe45 - 101fd M 10280 - 102e0 M 102e1 - 10376 M
10380 - 10a01 M 10a10 - 10a38 M 10a40 - 10ae5 M 10aeb - 10d24 M 10d30 - 10d69 M 10d6e - 10eab M
10ead - 10efa M 10f00 - 10f46 M 10f51 - 10f82 M 10f86 - 11000 M 11003 - 11038 M 11047 - 11070 M
11071 - 11073 M 11075 - 1107f M 11083 - 110b0 M 110bb - 110c2 M 110d0 - 11100 M 11103 - 11127 M
11136 - 11145 M 11147 - 11173 M 11174 - 11180 M 11183 - 111b3 M 111c1 - 111c9 M 111cd - 111ce M
111d0 - 1122c M 11238 - 1123e M 1123f - 11241 M 11280 - 112df M 112f0 - 11300 M 11305 - 1133b M
1133d - 1133e M 11350 - 11357 M 1135d - 11362 M 11380 - 113b8 M 113d1 - 113d2 M 113d3 - 113e1 M
11400 - 11435 M 11447 - 1145e M 1145f - 114b0 M 114c4 - 115af M 115c1 - 115dc M 11600 - 11630 M
11641 - 116ab M 116b8 - 1171d M 11730 - 1182c M 1183b - 11930 M 1193f - 11940 M 11941 - 11942 M
11944 - 119d1 M 119e1 - 119e4 M 11a00 - 11a01 M 11a0b - 11a33 M 11a3a - 11a3b M 11a3f - 11a47 M
11a50 - 11a51 M 11a5c - 11a8a M 11a9a - 11b60 M 11bc0 - 11c2f M 11c40 - 11c92 M 11d00 - 11d31 M
11d46 - 11d47 M 11d50 - 11d8a M 11d98 - 11ef3 M 11ef7 - 11f00 M 11f02 - 11f03 M 11f04 - 11f34 M
11f43 - 11f5a M 11fb0 - 13440 M 13441 - 13447 M 13460 - 1611e M 16130 - 16af0 M 16af5 - 16b30 M
16b37 - 16f4f M 16f50 - 16f51 M 16f93 - 16fe4 M 16ff2 - 1bc9d M 1bc9f - 1cf00 M 1cf50 - 1d165 M
1d16a - 1d16d M 1d183 - 1d185 M 1d18c - 1d1aa M 1d1ae - 1d242 M 1d245 - 1da00 M 1da37 - 1da3b M
1da6d - 1da75 M 1da76 - 1da84 M 1da85 - 1da9b M 1df00 - 1e000 M 1e100 - 1e130 M 1e137 - 1e2ae M
1e2c0 - 1e2ec M 1e2f0 - 1e4ec M 1e4f0 - 1e5ee M 1e5f0 - 1e6e3 M 1e6e4 - 1e6e6 M 1e6e7 - 1e6ee M
1e6f0 - 1e6f5 M 1e6fe - 1e8d0 M 1e922 - 1e944 M 1e94b -"

def isMark (c : Char) : Bool :=
  if c.toNat < 0x300 then false else (marks.get? c.toNat).getD false

end SnapshotFeed.Unicode
