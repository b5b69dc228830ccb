import ContentPublish.Text.Basic

/-
  Character properties

  The properties of characters that domain names and debug texts look at,
  each read from a table of the Unicode Character Database 17.0 kept as one
  record per change of value (see `RangeTable`).

  What is stated here:
    1. `isMark` — the character is a combining mark.
    2. `combiningClass` — the class of a character.
    3. `isVirama` — the class is 9.
    4. `JoiningType` and `joiningType` — the type of a character.
    5. `BidiClass` and `bidiClass` — the class of a character.
    6. `shownEscaped` — the character is written as an escape.
-/

/-! ## Combining marks

A combining mark, of General_Category Mark (Mn, Mc or Me), attaches to the
character before it; a label of a domain name may not start with one.

The table is taken from the General_Category property of the Unicode
Character Database 17.0: one record per change, a hexadecimal code point,
`=`, and `1` where the marks start or `0` where they end.
-/

namespace ContentPublish.Text

/-- The ranges of General_Category Mark. -/
def markLines : List String := [
  "0=0 300=1 370=0 483=1 48a=0 591=1 5be=0 5bf=1 5c0=0 5c1=1 5c3=0 5c4=1 5c6=0 5c7=1 5c8=0 610=1",
  "61b=0 64b=1 660=0 670=1 671=0 6d6=1 6dd=0 6df=1 6e5=0 6e7=1 6e9=0 6ea=1 6ee=0 711=1 712=0 730=1",
  "74b=0 7a6=1 7b1=0 7eb=1 7f4=0 7fd=1 7fe=0 816=1 81a=0 81b=1 824=0 825=1 828=0 829=1 82e=0 859=1",
  "85c=0 897=1 8a0=0 8ca=1 8e2=0 8e3=1 904=0 93a=1 93d=0 93e=1 950=0 951=1 958=0 962=1 964=0 981=1",
  "984=0 9bc=1 9bd=0 9be=1 9c5=0 9c7=1 9c9=0 9cb=1 9ce=0 9d7=1 9d8=0 9e2=1 9e4=0 9fe=1 9ff=0 a01=1",
  "a04=0 a3c=1 a3d=0 a3e=1 a43=0 a47=1 a49=0 a4b=1 a4e=0 a51=1 a52=0 a70=1 a72=0 a75=1 a76=0 a81=1",
  "a84=0 abc=1 abd=0 abe=1 ac6=0 ac7=1 aca=0 acb=1 ace=0 ae2=1 ae4=0 afa=1 b00=0 b01=1 b04=0 b3c=1",
  "b3d=0 b3e=1 b45=0 b47=1 b49=0 b4b=1 b4e=0 b55=1 b58=0 b62=1 b64=0 b82=1 b83=0 bbe=1 bc3=0 bc6=1",
  "bc9=0 bca=1 bce=0 bd7=1 bd8=0 c00=1 c05=0 c3c=1 c3d=0 c3e=1 c45=0 c46=1 c49=0 c4a=1 c4e=0 c55=1",
  "c57=0 c62=1 c64=0 c81=1 c84=0 cbc=1 cbd=0 cbe=1 cc5=0 cc6=1 cc9=0 cca=1 cce=0 cd5=1 cd7=0 ce2=1",
  "ce4=0 cf3=1 cf4=0 d00=1 d04=0 d3b=1 d3d=0 d3e=1 d45=0 d46=1 d49=0 d4a=1 d4e=0 d57=1 d58=0 d62=1",
  "d64=0 d81=1 d84=0 dca=1 dcb=0 dcf=1 dd5=0 dd6=1 dd7=0 dd8=1 de0=0 df2=1 df4=0 e31=1 e32=0 e34=1",
  "e3b=0 e47=1 e4f=0 eb1=1 eb2=0 eb4=1 ebd=0 ec8=1 ecf=0 f18=1 f1a=0 f35=1 f36=0 f37=1 f38=0 f39=1",
  "f3a=0 f3e=1 f40=0 f71=1 f85=0 f86=1 f88=0 f8d=1 f98=0 f99=1 fbd=0 fc6=1 fc7=0 102b=1 103f=0",
  "1056=1 105a=0 105e=1 1061=0 1062=1 1065=0 1067=1 106e=0 1071=1 1075=0 1082=1 108e=0 108f=1",
  "1090=0 109a=1 109e=0 135d=1 1360=0 1712=1 1716=0 1732=1 1735=0 1752=1 1754=0 1772=1 1774=0",
  "17b4=1 17d4=0 17dd=1 17de=0 180b=1 180e=0 180f=1 1810=0 1885=1 1887=0 18a9=1 18aa=0 1920=1",
  "192c=0 1930=1 193c=0 1a17=1 1a1c=0 1a55=1 1a5f=0 1a60=1 1a7d=0 1a7f=1 1a80=0 1ab0=1 1ade=0",
  "1ae0=1 1aec=0 1b00=1 1b05=0 1b34=1 1b45=0 1b6b=1 1b74=0 1b80=1 1b83=0 1ba1=1 1bae=0 1be6=1",
  "1bf4=0 1c24=1 1c38=0 1cd0=1 1cd3=0 1cd4=1 1ce9=0 1ced=1 1cee=0 1cf4=1 1cf5=0 1cf7=1 1cfa=0",
  "1dc0=1 1e00=0 20d0=1 20f1=0 2cef=1 2cf2=0 2d7f=1 2d80=0 2de0=1 2e00=0 302a=1 3030=0 3099=1",
  "309b=0 a66f=1 a673=0 a674=1 a67e=0 a69e=1 a6a0=0 a6f0=1 a6f2=0 a802=1 a803=0 a806=1 a807=0",
  "a80b=1 a80c=0 a823=1 a828=0 a82c=1 a82d=0 a880=1 a882=0 a8b4=1 a8c6=0 a8e0=1 a8f2=0 a8ff=1",
  "a900=0 a926=1 a92e=0 a947=1 a954=0 a980=1 a984=0 a9b3=1 a9c1=0 a9e5=1 a9e6=0 aa29=1 aa37=0",
  "aa43=1 aa44=0 aa4c=1 aa4e=0 aa7b=1 aa7e=0 aab0=1 aab1=0 aab2=1 aab5=0 aab7=1 aab9=0 aabe=1",
  "aac0=0 aac1=1 aac2=0 aaeb=1 aaf0=0 aaf5=1 aaf7=0 abe3=1 abeb=0 abec=1 abee=0 fb1e=1 fb1f=0",
  "fe00=1 fe10=0 fe20=1 fe30=0 101fd=1 101fe=0 102e0=1 102e1=0 10376=1 1037b=0 10a01=1 10a04=0",
  "10a05=1 10a07=0 10a0c=1 10a10=0 10a38=1 10a3b=0 10a3f=1 10a40=0 10ae5=1 10ae7=0 10d24=1 10d28=0",
  "10d69=1 10d6e=0 10eab=1 10ead=0 10efa=1 10f00=0 10f46=1 10f51=0 10f82=1 10f86=0 11000=1 11003=0",
  "11038=1 11047=0 11070=1 11071=0 11073=1 11075=0 1107f=1 11083=0 110b0=1 110bb=0 110c2=1 110c3=0",
  "11100=1 11103=0 11127=1 11135=0 11145=1 11147=0 11173=1 11174=0 11180=1 11183=0 111b3=1 111c1=0",
  "111c9=1 111cd=0 111ce=1 111d0=0 1122c=1 11238=0 1123e=1 1123f=0 11241=1 11242=0 112df=1 112eb=0",
  "11300=1 11304=0 1133b=1 1133d=0 1133e=1 11345=0 11347=1 11349=0 1134b=1 1134e=0 11357=1 11358=0",
  "11362=1 11364=0 11366=1 1136d=0 11370=1 11375=0 113b8=1 113c1=0 113c2=1 113c3=0 113c5=1 113c6=0",
  "113c7=1 113cb=0 113cc=1 113d1=0 113d2=1 113d3=0 113e1=1 113e3=0 11435=1 11447=0 1145e=1 1145f=0",
  "114b0=1 114c4=0 115af=1 115b6=0 115b8=1 115c1=0 115dc=1 115de=0 11630=1 11641=0 116ab=1 116b8=0",
  "1171d=1 1172c=0 1182c=1 1183b=0 11930=1 11936=0 11937=1 11939=0 1193b=1 1193f=0 11940=1 11941=0",
  "11942=1 11944=0 119d1=1 119d8=0 119da=1 119e1=0 119e4=1 119e5=0 11a01=1 11a0b=0 11a33=1 11a3a=0",
  "11a3b=1 11a3f=0 11a47=1 11a48=0 11a51=1 11a5c=0 11a8a=1 11a9a=0 11b60=1 11b68=0 11c2f=1 11c37=0",
  "11c38=1 11c40=0 11c92=1 11ca8=0 11ca9=1 11cb7=0 11d31=1 11d37=0 11d3a=1 11d3b=0 11d3c=1 11d3e=0",
  "11d3f=1 11d46=0 11d47=1 11d48=0 11d8a=1 11d8f=0 11d90=1 11d92=0 11d93=1 11d98=0 11ef3=1 11ef7=0",
  "11f00=1 11f02=0 11f03=1 11f04=0 11f34=1 11f3b=0 11f3e=1 11f43=0 11f5a=1 11f5b=0 13440=1 13441=0",
  "13447=1 13456=0 1611e=1 16130=0 16af0=1 16af5=0 16b30=1 16b37=0 16f4f=1 16f50=0 16f51=1 16f88=0",
  "16f8f=1 16f93=0 16fe4=1 16fe5=0 16ff0=1 16ff2=0 1bc9d=1 1bc9f=0 1cf00=1 1cf2e=0 1cf30=1 1cf47=0",
  "1d165=1 1d16a=0 1d16d=1 1d173=0 1d17b=1 1d183=0 1d185=1 1d18c=0 1d1aa=1 1d1ae=0 1d242=1 1d245=0",
  "1da00=1 1da37=0 1da3b=1 1da6d=0 1da75=1 1da76=0 1da84=1 1da85=0 1da9b=1 1daa0=0 1daa1=1 1dab0=0",
  "1e000=1 1e007=0 1e008=1 1e019=0 1e01b=1 1e022=0 1e023=1 1e025=0 1e026=1 1e02b=0 1e08f=1 1e090=0",
  "1e130=1 1e137=0 1e2ae=1 1e2af=0 1e2ec=1 1e2f0=0 1e4ec=1 1e4f0=0 1e5ee=1 1e5f0=0 1e6e3=1 1e6e4=0",
  "1e6e6=1 1e6e7=0 1e6ee=1 1e6f0=0 1e6f5=1 1e6f6=0 1e8d0=1 1e8d7=0 1e944=1 1e94b=0 e0100=1 e01f0=0"]

/-- The ranges of combining marks, read once. -/
def markTable : RangeTable Bool := RangeTable.ofLines (fun v => some (v == "1")) markLines

/-- The character has General_Category Mark. -/
def isMark (c : Char) : Bool := markTable.get false c.toNat

end ContentPublish.Text

/-! ## Canonical combining classes

The canonical combining class of a character orders the marks that follow
a base character: normalization sorts a run of marks by class, and a mark
joins a base character only when nothing of its class or of class 0 stands
between them. Characters of class 0 are starters. Class 9 is the virama,
which allows a zero-width joiner after it in a domain name.

The table is the Canonical_Combining_Class property of the Unicode
Character Database 17.0: one record per change of class, a hexadecimal
code point, `=`, and the class in decimal.
-/

namespace ContentPublish.Text

/-- The Canonical_Combining_Class property by ranges. -/
def combiningClassLines : List String := [
  "0=0 300=230 315=232 316=220 31a=232 31b=216 31c=220 321=202 323=220 327=202 329=220 334=1",
  "339=220 33d=230 345=240 346=230 347=220 34a=230 34d=220 34f=0 350=230 353=220 357=230 358=232",
  "359=220 35b=230 35c=233 35d=234 35f=233 360=234 362=233 363=230 370=0 483=230 488=0 591=220",
  "592=230 596=220 597=230 59a=222 59b=220 59c=230 5a2=220 5a8=230 5aa=220 5ab=230 5ad=222 5ae=228",
  "5af=230 5b0=10 5b1=11 5b2=12 5b3=13 5b4=14 5b5=15 5b6=16 5b7=17 5b8=18 5b9=19 5bb=20 5bc=21",
  "5bd=22 5be=0 5bf=23 5c0=0 5c1=24 5c2=25 5c3=0 5c4=230 5c5=220 5c6=0 5c7=18 5c8=0 610=230 618=30",
  "619=31 61a=32 61b=0 64b=27 64c=28 64d=29 64e=30 64f=31 650=32 651=33 652=34 653=230 655=220",
  "657=230 65c=220 65d=230 65f=220 660=0 670=35 671=0 6d6=230 6dd=0 6df=230 6e3=220 6e4=230 6e5=0",
  "6e7=230 6e9=0 6ea=220 6eb=230 6ed=220 6ee=0 711=36 712=0 730=230 731=220 732=230 734=220 735=230",
  "737=220 73a=230 73b=220 73d=230 73e=220 73f=230 742=220 743=230 744=220 745=230 746=220 747=230",
  "748=220 749=230 74b=0 7eb=230 7f2=220 7f3=230 7f4=0 7fd=220 7fe=0 816=230 81a=0 81b=230 824=0",
  "825=230 828=0 829=230 82e=0 859=220 85c=0 897=230 899=220 89c=230 8a0=0 8ca=230 8cf=220 8d4=230",
  "8e2=0 8e3=220 8e4=230 8e6=220 8e7=230 8e9=220 8ea=230 8ed=220 8f0=27 8f1=28 8f2=29 8f3=230",
  "8f6=220 8f7=230 8f9=220 8fb=230 900=0 93c=7 93d=0 94d=9 94e=0 951=230 952=220 953=230 955=0",
  "9bc=7 9bd=0 9cd=9 9ce=0 9fe=230 9ff=0 a3c=7 a3d=0 a4d=9 a4e=0 abc=7 abd=0 acd=9 ace=0 b3c=7",
  "b3d=0 b4d=9 b4e=0 bcd=9 bce=0 c3c=7 c3d=0 c4d=9 c4e=0 c55=84 c56=91 c57=0 cbc=7 cbd=0 ccd=9",
  "cce=0 d3b=9 d3d=0 d4d=9 d4e=0 dca=9 dcb=0 e38=103 e3a=9 e3b=0 e48=107 e4c=0 eb8=118 eba=9 ebb=0",
  "ec8=122 ecc=0 f18=220 f1a=0 f35=220 f36=0 f37=220 f38=0 f39=216 f3a=0 f71=129 f72=130 f73=0",
  "f74=132 f75=0 f7a=130 f7e=0 f80=130 f81=0 f82=230 f84=9 f85=0 f86=230 f88=0 fc6=220 fc7=0 1037=7",
  "1038=0 1039=9 103b=0 108d=220 108e=0 135d=230 1360=0 1714=9 1716=0 1734=9 1735=0 17d2=9 17d3=0",
  "17dd=230 17de=0 18a9=228 18aa=0 1939=222 193a=230 193b=220 193c=0 1a17=230 1a18=220 1a19=0",
  "1a60=9 1a61=0 1a75=230 1a7d=0 1a7f=220 1a80=0 1ab0=230 1ab5=220 1abb=230 1abd=220 1abe=0",
  "1abf=220 1ac1=230 1ac3=220 1ac5=230 1aca=220 1acb=230 1add=220 1ade=0 1ae0=230 1ae6=220 1ae7=230",
  "1aeb=234 1aec=0 1b34=7 1b35=0 1b44=9 1b45=0 1b6b=230 1b6c=220 1b6d=230 1b74=0 1baa=9 1bac=0",
  "1be6=7 1be7=0 1bf2=9 1bf4=0 1c37=7 1c38=0 1cd0=230 1cd3=0 1cd4=1 1cd5=220 1cda=230 1cdc=220",
  "1ce0=230 1ce1=0 1ce2=1 1ce9=0 1ced=220 1cee=0 1cf4=230 1cf5=0 1cf8=230 1cfa=0 1dc0=230 1dc2=220",
  "1dc3=230 1dca=220 1dcb=230 1dcd=234 1dce=214 1dcf=220 1dd0=202 1dd1=230 1df6=232 1df7=228",
  "1df9=220 1dfa=218 1dfb=230 1dfc=233 1dfd=220 1dfe=230 1dff=220 1e00=0 20d0=230 20d2=1 20d4=230",
  "20d8=1 20db=230 20dd=0 20e1=230 20e2=0 20e5=1 20e7=230 20e8=220 20e9=230 20ea=1 20ec=220",
  "20f0=230 20f1=0 2cef=230 2cf2=0 2d7f=9 2d80=0 2de0=230 2e00=0 302a=218 302b=228 302c=232",
  "302d=222 302e=224 3030=0 3099=8 309b=0 a66f=230 a670=0 a674=230 a67e=0 a69e=230 a6a0=0 a6f0=230",
  "a6f2=0 a806=9 a807=0 a82c=9 a82d=0 a8c4=9 a8c5=0 a8e0=230 a8f2=0 a92b=220 a92e=0 a953=9 a954=0",
  "a9b3=7 a9b4=0 a9c0=9 a9c1=0 aab0=230 aab1=0 aab2=230 aab4=220 aab5=0 aab7=230 aab9=0 aabe=230",
  "aac0=0 aac1=230 aac2=0 aaf6=9 aaf7=0 abed=9 abee=0 fb1e=26 fb1f=0 fe20=230 fe27=220 fe2e=230",
  "fe30=0 101fd=220 101fe=0 102e0=220 102e1=0 10376=230 1037b=0 10a0d=220 10a0e=0 10a0f=230 10a10=0",
  "10a38=230 10a39=1 10a3a=220 10a3b=0 10a3f=9 10a40=0 10ae5=230 10ae6=220 10ae7=0 10d24=230",
  "10d28=0 10d69=230 10d6e=0 10eab=230 10ead=0 10efa=220 10efc=0 10efd=220 10f00=0 10f46=220",
  "10f48=230 10f4b=220 10f4c=230 10f4d=220 10f51=0 10f82=230 10f83=220 10f84=230 10f85=220 10f86=0",
  "11046=9 11047=0 11070=9 11071=0 1107f=9 11080=0 110b9=9 110ba=7 110bb=0 11100=230 11103=0",
  "11133=9 11135=0 11173=7 11174=0 111c0=9 111c1=0 111ca=7 111cb=0 11235=9 11236=7 11237=0 112e9=7",
  "112ea=9 112eb=0 1133b=7 1133d=0 1134d=9 1134e=0 11366=230 1136d=0 11370=230 11375=0 113ce=9",
  "113d1=0 11442=9 11443=0 11446=7 11447=0 1145e=230 1145f=0 114c2=9 114c3=7 114c4=0 115bf=9",
  "115c0=7 115c1=0 1163f=9 11640=0 116b6=9 116b7=7 116b8=0 1172b=9 1172c=0 11839=9 1183a=7 1183b=0",
  "1193d=9 1193f=0 11943=7 11944=0 119e0=9 119e1=0 11a34=9 11a35=0 11a47=9 11a48=0 11a99=9 11a9a=0",
  "11c3f=9 11c40=0 11d42=7 11d43=0 11d44=9 11d46=0 11d97=9 11d98=0 11f41=9 11f43=0 1612f=9 16130=0",
  "16af0=1 16af5=0 16b30=230 16b37=0 16ff0=6 16ff2=0 1bc9e=1 1bc9f=0 1d165=216 1d167=1 1d16a=0",
  "1d16d=226 1d16e=216 1d173=0 1d17b=220 1d183=0 1d185=230 1d18a=220 1d18c=0 1d1aa=230 1d1ae=0",
  "1d242=230 1d245=0 1e000=230 1e007=0 1e008=230 1e019=0 1e01b=230 1e022=0 1e023=230 1e025=0",
  "1e026=230 1e02b=0 1e08f=230 1e090=0 1e130=230 1e137=0 1e2ae=230 1e2af=0 1e2ec=230 1e2f0=0",
  "1e4ec=232 1e4ee=220 1e4ef=230 1e4f0=0 1e5ee=230 1e5ef=220 1e5f0=0 1e6e3=230 1e6e4=0 1e6e6=230",
  "1e6e7=0 1e6ee=230 1e6f0=0 1e6f5=230 1e6f6=0 1e8d0=220 1e8d7=0 1e944=230 1e94a=7 1e94b=0"]

/-- The combining classes, read once. -/
def combiningClassTable : RangeTable Nat := RangeTable.ofLines String.toNat? combiningClassLines

/-- The canonical combining class of a character. -/
def combiningClass (c : Char) : Nat := combiningClassTable.get 0 c.toNat

/-- The character is a virama, of combining class 9. -/
def isVirama (c : Char) : Bool := combiningClass c == 9

end ContentPublish.Text

/-! ## Joining types

In cursive scripts a letter may join the letter before it, the one after
it, both or neither, and marks between them are transparent. A zero-width
non-joiner in a domain name must stand where it can break such a join.

The table is the Joining_Type property of the Unicode Character Database
17.0: one record per change of type, a hexadecimal code point, `=`, and
the type's short name.
-/

namespace ContentPublish.Text

/-- How a character joins its neighbours. -/
inductive JoiningType where
  /-- `U`: it joins neither side. -/
  | nonJoining
  /-- `D`: it joins both sides. -/
  | dualJoining
  /-- `R`: it joins the character before it. -/
  | rightJoining
  /-- `L`: it joins the character after it. -/
  | leftJoining
  /-- `T`: it lets a join pass through it. -/
  | transparent
  /-- `C`: it makes its neighbours join. -/
  | joinCausing
  deriving DecidableEq, Repr

/-- The type of a short name of the property. -/
def JoiningType.ofName (name : String) : JoiningType :=
  match name with
  | "D" => .dualJoining
  | "R" => .rightJoining
  | "L" => .leftJoining
  | "T" => .transparent
  | "C" => .joinCausing
  | _ => .nonJoining

/-- The Joining_Type property by ranges. -/
def joiningTypeLines : List String := [
  "0=U ad=T ae=U 300=T 370=U 483=T 48a=U 591=T 5be=U 5bf=T 5c0=U 5c1=T 5c3=U 5c4=T 5c6=U 5c7=T",
  "5c8=U 610=T 61b=U 61c=T 61d=U 620=D 621=U 622=R 626=D 627=R 628=D 629=R 62a=D 62f=R 633=D 640=C",
  "641=D 648=R 649=D 64b=T 660=U 66e=D 670=T 671=R 674=U 675=R 678=D 688=R 69a=D 6c0=R 6c1=D 6c3=R",
  "6cc=D 6cd=R 6ce=D 6cf=R 6d0=D 6d2=R 6d4=U 6d5=R 6d6=T 6dd=U 6df=T 6e5=U 6e7=T 6e9=U 6ea=T 6ee=R",
  "6f0=U 6fa=D 6fd=U 6ff=D 700=U 70f=T 710=R 711=T 712=D 715=R 71a=D 71e=R 71f=D 728=R 729=D 72a=R",
  "72b=D 72c=R 72d=D 72f=R 730=T 74b=U 74d=R 74e=D 759=R 75c=D 76b=R 76d=D 771=R 772=D 773=R 775=D",
  "778=R 77a=D 780=U 7a6=T 7b1=U 7ca=D 7eb=T 7f4=U 7fa=C 7fb=U 7fd=T 7fe=U 816=T 81a=U 81b=T 824=U",
  "825=T 828=U 829=T 82e=U 840=R 841=D 846=R 848=D 849=R 84a=D 854=R 855=D 856=R 859=T 85c=U 860=D",
  "861=U 862=D 866=U 867=R 868=D 869=R 86b=U 870=R 883=C 886=D 887=U 889=D 88e=R 88f=D 890=U 897=T",
  "8a0=D 8aa=R 8ad=U 8ae=R 8af=D 8b1=R 8b3=D 8b9=R 8ba=D 8c9=U 8ca=T 8e2=U 8e3=T 903=U 93a=T 93b=U",
  "93c=T 93d=U 941=T 949=U 94d=T 94e=U 951=T 958=U 962=T 964=U 981=T 982=U 9bc=T 9bd=U 9c1=T 9c5=U",
  "9cd=T 9ce=U 9e2=T 9e4=U 9fe=T 9ff=U a01=T a03=U a3c=T a3d=U a41=T a43=U a47=T a49=U a4b=T a4e=U",
  "a51=T a52=U a70=T a72=U a75=T a76=U a81=T a83=U abc=T abd=U ac1=T ac6=U ac7=T ac9=U acd=T ace=U",
  "ae2=T ae4=U afa=T b00=U b01=T b02=U b3c=T b3d=U b3f=T b40=U b41=T b45=U b4d=T b4e=U b55=T b57=U",
  "b62=T b64=U b82=T b83=U bc0=T bc1=U bcd=T bce=U c00=T c01=U c04=T c05=U c3c=T c3d=U c3e=T c41=U",
  "c46=T c49=U c4a=T c4e=U c55=T c57=U c62=T c64=U c81=T c82=U cbc=T cbd=U cbf=T cc0=U cc6=T cc7=U",
  "ccc=T cce=U ce2=T ce4=U d00=T d02=U d3b=T d3d=U d41=T d45=U d4d=T d4e=U d62=T d64=U d81=T d82=U",
  "dca=T dcb=U dd2=T dd5=U dd6=T dd7=U e31=T e32=U e34=T e3b=U e47=T e4f=U eb1=T eb2=U eb4=T ebd=U",
  "ec8=T ecf=U f18=T f1a=U f35=T f36=U f37=T f38=U f39=T f3a=U f71=T f7f=U f80=T f85=U f86=T f88=U",
  "f8d=T f98=U f99=T fbd=U fc6=T fc7=U 102d=T 1031=U 1032=T 1038=U 1039=T 103b=U 103d=T 103f=U",
  "1058=T 105a=U 105e=T 1061=U 1071=T 1075=U 1082=T 1083=U 1085=T 1087=U 108d=T 108e=U 109d=T",
  "109e=U 135d=T 1360=U 1712=T 1715=U 1732=T 1734=U 1752=T 1754=U 1772=T 1774=U 17b4=T 17b6=U",
  "17b7=T 17be=U 17c6=T 17c7=U 17c9=T 17d4=U 17dd=T 17de=U 1807=D 1808=U 180a=C 180b=T 180e=U",
  "180f=T 1810=U 1820=D 1879=U 1885=T 1887=D 18a9=T 18aa=D 18ab=U 1920=T 1923=U 1927=T 1929=U",
  "1932=T 1933=U 1939=T 193c=U 1a17=T 1a19=U 1a1b=T 1a1c=U 1a56=T 1a57=U 1a58=T 1a5f=U 1a60=T",
  "1a61=U 1a62=T 1a63=U 1a65=T 1a6d=U 1a73=T 1a7d=U 1a7f=T 1a80=U 1ab0=T 1ade=U 1ae0=T 1aec=U",
  "1b00=T 1b04=U 1b34=T 1b35=U 1b36=T 1b3b=U 1b3c=T 1b3d=U 1b42=T 1b43=U 1b6b=T 1b74=U 1b80=T",
  "1b82=U 1ba2=T 1ba6=U 1ba8=T 1baa=U 1bab=T 1bae=U 1be6=T 1be7=U 1be8=T 1bea=U 1bed=T 1bee=U",
  "1bef=T 1bf2=U 1c2c=T 1c34=U 1c36=T 1c38=U 1cd0=T 1cd3=U 1cd4=T 1ce1=U 1ce2=T 1ce9=U 1ced=T",
  "1cee=U 1cf4=T 1cf5=U 1cf8=T 1cfa=U 1dc0=T 1e00=U 200b=T 200c=U 200d=C 200e=T 2010=U 202a=T",
  "202f=U 2060=T 2065=U 206a=T 2070=U 20d0=T 20f1=U 2cef=T 2cf2=U 2d7f=T 2d80=U 2de0=T 2e00=U",
  "302a=T 302e=U 3099=T 309b=U a66f=T a673=U a674=T a67e=U a69e=T a6a0=U a6f0=T a6f2=U a802=T",
  "a803=U a806=T a807=U a80b=T a80c=U a825=T a827=U a82c=T a82d=U a840=D a872=L a873=U a8c4=T",
  "a8c6=U a8e0=T a8f2=U a8ff=T a900=U a926=T a92e=U a947=T a952=U a980=T a983=U a9b3=T a9b4=U",
  "a9b6=T a9ba=U a9bc=T a9be=U a9e5=T a9e6=U aa29=T aa2f=U aa31=T aa33=U aa35=T aa37=U aa43=T",
  "aa44=U aa4c=T aa4d=U aa7c=T aa7d=U aab0=T aab1=U aab2=T aab5=U aab7=T aab9=U aabe=T aac0=U",
  "aac1=T aac2=U aaec=T aaee=U aaf6=T aaf7=U abe5=T abe6=U abe8=T abe9=U abed=T abee=U fb1e=T",
  "fb1f=U fe00=T fe10=U fe20=T fe30=U feff=T ff00=U fff9=T fffc=U 101fd=T 101fe=U 102e0=T 102e1=U",
  "10376=T 1037b=U 10a01=T 10a04=U 10a05=T 10a07=U 10a0c=T 10a10=U 10a38=T 10a3b=U 10a3f=T 10a40=U",
  "10ac0=D 10ac5=R 10ac6=U 10ac7=R 10ac8=U 10ac9=R 10acb=U 10acd=L 10ace=R 10ad3=D 10ad7=L 10ad8=D",
  "10add=R 10ade=D 10ae1=R 10ae2=U 10ae4=R 10ae5=T 10ae7=U 10aeb=D 10aef=R 10af0=U 10b80=D 10b81=R",
  "10b82=D 10b83=R 10b86=D 10b89=R 10b8a=D 10b8c=R 10b8d=D 10b8e=R 10b90=D 10b91=R 10b92=U 10ba9=R",
  "10bad=D 10baf=U 10d00=L 10d01=D 10d22=R 10d23=D 10d24=T 10d28=U 10d69=T 10d6e=U 10eab=T 10ead=U",
  "10ec2=R 10ec3=D 10ec5=U 10ec6=D 10ec8=U 10efa=T 10f00=U 10f30=D 10f33=R 10f34=D 10f45=U 10f46=T",
  "10f51=D 10f54=R 10f55=U 10f70=D 10f74=R 10f76=D 10f82=T 10f86=U 10fb0=D 10fb1=U 10fb2=D 10fb4=R",
  "10fb7=U 10fb8=D 10fb9=R 10fbb=D 10fbd=R 10fbe=D 10fc0=U 10fc1=D 10fc2=R 10fc4=D 10fc5=U 10fc9=R",
  "10fca=D 10fcb=L 10fcc=U 11001=T 11002=U 11038=T 11047=U 11070=T 11071=U 11073=T 11075=U 1107f=T",
  "11082=U 110b3=T 110b7=U 110b9=T 110bb=U 110c2=T 110c3=U 11100=T 11103=U 11127=T 1112c=U 1112d=T",
  "11135=U 11173=T 11174=U 11180=T 11182=U 111b6=T 111bf=U 111c9=T 111cd=U 111cf=T 111d0=U 1122f=T",
  "11232=U 11234=T 11235=U 11236=T 11238=U 1123e=T 1123f=U 11241=T 11242=U 112df=T 112e0=U 112e3=T",
  "112eb=U 11300=T 11302=U 1133b=T 1133d=U 11340=T 11341=U 11366=T 1136d=U 11370=T 11375=U 113bb=T",
  "113c1=U 113ce=T 113cf=U 113d0=T 113d1=U 113d2=T 113d3=U 113e1=T 113e3=U 11438=T 11440=U 11442=T",
  "11445=U 11446=T 11447=U 1145e=T 1145f=U 114b3=T 114b9=U 114ba=T 114bb=U 114bf=T 114c1=U 114c2=T",
  "114c4=U 115b2=T 115b6=U 115bc=T 115be=U 115bf=T 115c1=U 115dc=T 115de=U 11633=T 1163b=U 1163d=T",
  "1163e=U 1163f=T 11641=U 116ab=T 116ac=U 116ad=T 116ae=U 116b0=T 116b6=U 116b7=T 116b8=U 1171d=T",
  "1171e=U 1171f=T 11720=U 11722=T 11726=U 11727=T 1172c=U 1182f=T 11838=U 11839=T 1183b=U 1193b=T",
  "1193d=U 1193e=T 1193f=U 11943=T 11944=U 119d4=T 119d8=U 119da=T 119dc=U 119e0=T 119e1=U 11a01=T",
  "11a0b=U 11a33=T 11a39=U 11a3b=T 11a3f=U 11a47=T 11a48=U 11a51=T 11a57=U 11a59=T 11a5c=U 11a8a=T",
  "11a97=U 11a98=T 11a9a=U 11b60=T 11b61=U 11b62=T 11b65=U 11b66=T 11b67=U 11c30=T 11c37=U 11c38=T",
  "11c3e=U 11c3f=T 11c40=U 11c92=T 11ca8=U 11caa=T 11cb1=U 11cb2=T 11cb4=U 11cb5=T 11cb7=U 11d31=T",
  "11d37=U 11d3a=T 11d3b=U 11d3c=T 11d3e=U 11d3f=T 11d46=U 11d47=T 11d48=U 11d90=T 11d92=U 11d95=T",
  "11d96=U 11d97=T 11d98=U 11ef3=T 11ef5=U 11f00=T 11f02=U 11f36=T 11f3b=U 11f40=T 11f41=U 11f42=T",
  "11f43=U 11f5a=T 11f5b=U 13430=T 13441=U 13447=T 13456=U 1611e=T 1612a=U 1612d=T 16130=U 16af0=T",
  "16af5=U 16b30=T 16b37=U 16f4f=T 16f50=U 16f8f=T 16f93=U 16fe4=T 16fe5=U 1bc9d=T 1bc9f=U 1bca0=T",
  "1bca4=U 1cf00=T 1cf2e=U 1cf30=T 1cf47=U 1d167=T 1d16a=U 1d173=T 1d183=U 1d185=T 1d18c=U 1d1aa=T",
  "1d1ae=U 1d242=T 1d245=U 1da00=T 1da37=U 1da3b=T 1da6d=U 1da75=T 1da76=U 1da84=T 1da85=U 1da9b=T",
  "1daa0=U 1daa1=T 1dab0=U 1e000=T 1e007=U 1e008=T 1e019=U 1e01b=T 1e022=U 1e023=T 1e025=U 1e026=T",
  "1e02b=U 1e08f=T 1e090=U 1e130=T 1e137=U 1e2ae=T 1e2af=U 1e2ec=T 1e2f0=U 1e4ec=T 1e4f0=U 1e5ee=T",
  "1e5f0=U 1e6e3=T 1e6e4=U 1e6e6=T 1e6e7=U 1e6ee=T 1e6f0=U 1e6f5=T 1e6f6=U 1e8d0=T 1e8d7=U 1e900=D",
  "1e944=T 1e94c=U e0001=T e0002=U e0020=T e0080=U e0100=T e01f0=U"]

/-- The joining types, read once. -/
def joiningTypeTable : RangeTable JoiningType :=
  RangeTable.ofLines (fun v => some (JoiningType.ofName v)) joiningTypeLines

/-- The joining type of a character. -/
def joiningType (c : Char) : JoiningType := joiningTypeTable.get .nonJoining c.toNat

end ContentPublish.Text

/-! ## Bidirectional classes

The bidirectional class of a character says how it behaves in text of
mixed direction. A domain name that holds a right-to-left character must
keep each of its labels readable in one direction, and that rule looks at
eleven of the classes; the other twelve (paragraph and segment separators,
white space and the explicit embeddings, overrides and isolates) are
refused alike, and are one class here.

The table is the Bidi_Class property of the Unicode Character Database
17.0, with the defaults of unassigned code points: one record per change of
class, a hexadecimal code point, `=`, and the class's short name.
-/

namespace ContentPublish.Text

/-- The bidirectional classes that the rule for domain names tells apart. -/
inductive BidiClass where
  /-- `L`: a left-to-right letter. -/
  | leftToRight
  /-- `R`: a right-to-left letter. -/
  | rightToLeft
  /-- `AL`: an Arabic letter. -/
  | arabicLetter
  /-- `EN`: a European digit. -/
  | europeanNumber
  /-- `ES`: a plus or minus sign. -/
  | europeanSeparator
  /-- `ET`: a currency or degree sign and the like. -/
  | europeanTerminator
  /-- `AN`: an Arabic digit. -/
  | arabicNumber
  /-- `CS`: a comma, colon, full stop or slash. -/
  | commonSeparator
  /-- `NSM`: a nonspacing mark. -/
  | nonspacingMark
  /-- `BN`: a control or format character that is ignored. -/
  | boundaryNeutral
  /-- `ON`: another neutral. -/
  | otherNeutral
  /-- A separator, white space, or an explicit embedding, override or isolate. -/
  | other
  deriving DecidableEq, Repr

/-- The class of a short name of the property. -/
def BidiClass.ofName (name : String) : BidiClass :=
  match name with
  | "L" => .leftToRight
  | "R" => .rightToLeft
  | "AL" => .arabicLetter
  | "EN" => .europeanNumber
  | "ES" => .europeanSeparator
  | "ET" => .europeanTerminator
  | "AN" => .arabicNumber
  | "CS" => .commonSeparator
  | "NSM" => .nonspacingMark
  | "BN" => .boundaryNeutral
  | "ON" => .otherNeutral
  | _ => .other

/-- The Bidi_Class property by ranges. -/
def bidiClassLines : List String := [
  "0=BN 9=S a=B b=S c=WS d=B e=BN 1c=B 1f=S 20=WS 21=ON 23=ET 26=ON 2b=ES 2c=CS 2d=ES 2e=CS 30=EN",
  "3a=CS 3b=ON 41=L 5b=ON 61=L 7b=ON 7f=BN 85=B 86=BN a0=CS a1=ON a2=ET a6=ON aa=L ab=ON ad=BN",
  "ae=ON b0=ET b2=EN b4=ON b5=L b6=ON b9=EN ba=L bb=ON c0=L d7=ON d8=L f7=ON f8=L 2b9=ON 2bb=L",
  "2c2=ON 2d0=L 2d2=ON 2e0=L 2e5=ON 2ee=L 2ef=ON 300=NSM 370=L 374=ON 376=L 37e=ON 37f=L 384=ON",
  "386=L 387=ON 388=L 3f6=ON 3f7=L 483=NSM 48a=L 58a=ON 58b=L 58d=ON 58f=ET 590=R 591=NSM 5be=R",
  "5bf=NSM 5c0=R 5c1=NSM 5c3=R 5c4=NSM 5c6=R 5c7=NSM 5c8=R 600=AN 606=ON 608=AL 609=ET 60b=AL",
  "60c=CS 60d=AL 60e=ON 610=NSM 61b=AL 64b=NSM 660=AN 66a=ET 66b=AN 66d=AL 670=NSM 671=AL 6d6=NSM",
  "6dd=AN 6de=ON 6df=NSM 6e5=AL 6e7=NSM 6e9=ON 6ea=NSM 6ee=AL 6f0=EN 6fa=AL 711=NSM 712=AL 730=NSM",
  "74b=AL 7a6=NSM 7b1=AL 7c0=R 7eb=NSM 7f4=R 7f6=ON 7fa=R 7fd=NSM 7fe=R 816=NSM 81a=R 81b=NSM 824=R",
  "825=NSM 828=R 829=NSM 82e=R 859=NSM 85c=R 860=AL 890=AN 892=AL 897=NSM 8a0=AL 8ca=NSM 8e2=AN",
  "8e3=NSM 903=L 93a=NSM 93b=L 93c=NSM 93d=L 941=NSM 949=L 94d=NSM 94e=L 951=NSM 958=L 962=NSM",
  "964=L 981=NSM 982=L 9bc=NSM 9bd=L 9c1=NSM 9c5=L 9cd=NSM 9ce=L 9e2=NSM 9e4=L 9f2=ET 9f4=L 9fb=ET",
  "9fc=L 9fe=NSM 9ff=L a01=NSM a03=L a3c=NSM a3d=L a41=NSM a43=L a47=NSM a49=L a4b=NSM a4e=L",
  "a51=NSM a52=L a70=NSM a72=L a75=NSM a76=L a81=NSM a83=L abc=NSM abd=L ac1=NSM ac6=L ac7=NSM",
  "ac9=L acd=NSM ace=L ae2=NSM ae4=L af1=ET af2=L afa=NSM b00=L b01=NSM b02=L b3c=NSM b3d=L b3f=NSM",
  "b40=L b41=NSM b45=L b4d=NSM b4e=L b55=NSM b57=L b62=NSM b64=L b82=NSM b83=L bc0=NSM bc1=L",
  "bcd=NSM bce=L bf3=ON bf9=ET bfa=ON bfb=L c00=NSM c01=L c04=NSM c05=L c3c=NSM c3d=L c3e=NSM c41=L",
  "c46=NSM c49=L c4a=NSM c4e=L c55=NSM c57=L c62=NSM c64=L c78=ON c7f=L c81=NSM c82=L cbc=NSM cbd=L",
  "ccc=NSM cce=L ce2=NSM ce4=L d00=NSM d02=L d3b=NSM d3d=L d41=NSM d45=L d4d=NSM d4e=L d62=NSM",
  "d64=L d81=NSM d82=L dca=NSM dcb=L dd2=NSM dd5=L dd6=NSM dd7=L e31=NSM e32=L e34=NSM e3b=L e3f=ET",
  "e40=L e47=NSM e4f=L eb1=NSM eb2=L eb4=NSM ebd=L ec8=NSM ecf=L f18=NSM f1a=L f35=NSM f36=L",
  "f37=NSM f38=L f39=NSM f3a=ON f3e=L f71=NSM f7f=L f80=NSM f85=L f86=NSM f88=L f8d=NSM f98=L",
  "f99=NSM fbd=L fc6=NSM fc7=L 102d=NSM 1031=L 1032=NSM 1038=L 1039=NSM 103b=L 103d=NSM 103f=L",
  "1058=NSM 105a=L 105e=NSM 1061=L 1071=NSM 1075=L 1082=NSM 1083=L 1085=NSM 1087=L 108d=NSM 108e=L",
  "109d=NSM 109e=L 135d=NSM 1360=L 1390=ON 139a=L 1400=ON 1401=L 1680=WS 1681=L 169b=ON 169d=L",
  "1712=NSM 1715=L 1732=NSM 1734=L 1752=NSM 1754=L 1772=NSM 1774=L 17b4=NSM 17b6=L 17b7=NSM 17be=L",
  "17c6=NSM 17c7=L 17c9=NSM 17d4=L 17db=ET 17dc=L 17dd=NSM 17de=L 17f0=ON 17fa=L 1800=ON 180b=NSM",
  "180e=BN 180f=NSM 1810=L 1885=NSM 1887=L 18a9=NSM 18aa=L 1920=NSM 1923=L 1927=NSM 1929=L 1932=NSM",
  "1933=L 1939=NSM 193c=L 1940=ON 1941=L 1944=ON 1946=L 19de=ON 1a00=L 1a17=NSM 1a19=L 1a1b=NSM",
  "1a1c=L 1a56=NSM 1a57=L 1a58=NSM 1a5f=L 1a60=NSM 1a61=L 1a62=NSM 1a63=L 1a65=NSM 1a6d=L 1a73=NSM",
  "1a7d=L 1a7f=NSM 1a80=L 1ab0=NSM 1ade=L 1ae0=NSM 1aec=L 1b00=NSM 1b04=L 1b34=NSM 1b35=L 1b36=NSM",
  "1b3a=L 1b42=NSM 1b43=L 1b6b=NSM 1b74=L 1b80=NSM 1b82=L 1ba2=NSM 1ba6=L 1ba8=NSM 1baa=L 1bab=NSM",
  "1bae=L 1be6=NSM 1be7=L 1be8=NSM 1bea=L 1bed=NSM 1bee=L 1bef=NSM 1bf2=L 1c2c=NSM 1c34=L 1c36=NSM",
  "1c38=L 1cd0=NSM 1cd3=L 1cd4=NSM 1ce1=L 1ce2=NSM 1ce9=L 1ced=NSM 1cee=L 1cf4=NSM 1cf5=L 1cf8=NSM",
  "1cfa=L 1dc0=NSM 1e00=L 1fbd=ON 1fbe=L 1fbf=ON 1fc2=L 1fcd=ON 1fd0=L 1fdd=ON 1fe0=L 1fed=ON",
  "1ff0=L 1ffd=ON 1fff=L 2000=WS 200b=BN 200e=L 200f=R 2010=ON 2028=WS 2029=B 202a=LRE 202b=RLE",
  "202c=PDF 202d=LRO 202e=RLO 202f=CS 2030=ET 2035=ON 2044=CS 2045=ON 205f=WS 2060=BN 2066=LRI",
  "2067=RLI 2068=FSI 2069=PDI 206a=BN 2070=EN 2071=L 2074=EN 207a=ES 207c=ON 207f=L 2080=EN 208a=ES",
  "208c=ON 208f=L 20a0=ET 20d0=NSM 20f1=L 2100=ON 2102=L 2103=ON 2107=L 2108=ON 210a=L 2114=ON",
  "2115=L 2116=ON 2119=L 211e=ON 2124=L 2125=ON 2126=L 2127=ON 2128=L 2129=ON 212a=L 212e=ET 212f=L",
  "213a=ON 213c=L 2140=ON 2145=L 214a=ON 214e=L 2150=ON 2160=L 2189=ON 218c=L 2190=ON 2212=ES",
  "2213=ET 2214=ON 2336=L 237b=ON 2395=L 2396=ON 242a=L 2440=ON 244b=L 2460=ON 2488=EN 249c=L",
  "24ea=ON 26ac=L 26ad=ON 2800=L 2900=ON 2b74=L 2b76=ON 2c00=L 2ce5=ON 2ceb=L 2cef=NSM 2cf2=L",
  "2cf9=ON 2d00=L 2d7f=NSM 2d80=L 2de0=NSM 2e00=ON 2e5e=L 2e80=ON 2e9a=L 2e9b=ON 2ef4=L 2f00=ON",
  "2fd6=L 2ff0=ON 3000=WS 3001=ON 3005=L 3008=ON 3021=L 302a=NSM 302e=L 3030=ON 3031=L 3036=ON",
  "3038=L 303d=ON 3040=L 3099=NSM 309b=ON 309d=L 30a0=ON 30a1=L 30fb=ON 30fc=L 31c0=ON 31e6=L",
  "31ef=ON 31f0=L 321d=ON 321f=L 3250=ON 3260=L 327c=ON 327f=L 32b1=ON 32c0=L 32cc=ON 32d0=L",
  "3377=ON 337b=L 33de=ON 33e0=L 33ff=ON 3400=L 4dc0=ON 4e00=L a490=ON a4c7=L a60d=ON a610=L",
  "a66f=NSM a673=ON a674=NSM a67e=ON a680=L a69e=NSM a6a0=L a6f0=NSM a6f2=L a700=ON a722=L a788=ON",
  "a789=L a802=NSM a803=L a806=NSM a807=L a80b=NSM a80c=L a825=NSM a827=L a828=ON a82c=NSM a82d=L",
  "a838=ET a83a=L a874=ON a878=L a8c4=NSM a8c6=L a8e0=NSM a8f2=L a8ff=NSM a900=L a926=NSM a92e=L",
  "a947=NSM a952=L a980=NSM a983=L a9b3=NSM a9b4=L a9b6=NSM a9ba=L a9bc=NSM a9be=L a9e5=NSM a9e6=L",
  "aa29=NSM aa2f=L aa31=NSM aa33=L aa35=NSM aa37=L aa43=NSM aa44=L aa4c=NSM aa4d=L aa7c=NSM aa7d=L",
  "aab0=NSM aab1=L aab2=NSM aab5=L aab7=NSM aab9=L aabe=NSM aac0=L aac1=NSM aac2=L aaec=NSM aaee=L",
  "aaf6=NSM aaf7=L ab6a=ON ab6c=L abe5=NSM abe6=L abe8=NSM abe9=L abed=NSM abee=L fb1d=R fb1e=NSM",
  "fb1f=R fb29=ES fb2a=R fb50=AL fbc3=ON fbd3=AL fd3e=ON fd50=AL fd90=ON fd92=AL fdc8=ON fdd0=BN",
  "fdf0=AL fdfd=ON fe00=NSM fe10=ON fe1a=L fe20=NSM fe30=ON fe50=CS fe51=ON fe52=CS fe53=L fe54=ON",
  "fe55=CS fe56=ON fe5f=ET fe60=ON fe62=ES fe64=ON fe67=L fe68=ON fe69=ET fe6b=ON fe6c=L fe70=AL",
  "feff=BN ff00=L ff01=ON ff03=ET ff06=ON ff0b=ES ff0c=CS ff0d=ES ff0e=CS ff10=EN ff1a=CS ff1b=ON",
  "ff21=L ff3b=ON ff41=L ff5b=ON ff66=L ffe0=ET ffe2=ON ffe5=ET ffe7=L ffe8=ON ffef=L fff0=BN",
  "fff9=ON fffe=BN 10000=L 10101=ON 10102=L 10140=ON 1018d=L 10190=ON 1019d=L 101a0=ON 101a1=L",
  "101fd=NSM 101fe=L 102e0=NSM 102e1=EN 102fc=L 10376=NSM 1037b=L 10800=R 1091f=ON 10920=R",
  "10a01=NSM 10a04=R 10a05=NSM 10a07=R 10a0c=NSM 10a10=R 10a38=NSM 10a3b=R 10a3f=NSM 10a40=R",
  "10ae5=NSM 10ae7=R 10b39=ON 10b40=R 10d00=AL 10d24=NSM 10d28=AL 10d30=AN 10d3a=AL 10d40=AN",
  "10d4a=R 10d69=NSM 10d6e=ON 10d6f=R 10d8e=ES 10d90=R 10e60=AN 10e7f=R 10eab=NSM 10ead=R 10ec0=AL",
  "10ed0=ON 10ed9=AL 10efa=NSM 10f00=R 10f30=AL 10f46=NSM 10f51=AL 10f70=R 10f82=NSM 10f86=R",
  "11000=L 11001=NSM 11002=L 11038=NSM 11047=L 11052=ON 11066=L 11070=NSM 11071=L 11073=NSM 11075=L",
  "1107f=NSM 11082=L 110b3=NSM 110b7=L 110b9=NSM 110bb=L 110c2=NSM 110c3=L 11100=NSM 11103=L",
  "11127=NSM 1112c=L 1112d=NSM 11135=L 11173=NSM 11174=L 11180=NSM 11182=L 111b6=NSM 111bf=L",
  "111c9=NSM 111cd=L 111cf=NSM 111d0=L 1122f=NSM 11232=L 11234=NSM 11235=L 11236=NSM 11238=L",
  "1123e=NSM 1123f=L 11241=NSM 11242=L 112df=NSM 112e0=L 112e3=NSM 112eb=L 11300=NSM 11302=L",
  "1133b=NSM 1133d=L 11340=NSM 11341=L 11366=NSM 1136d=L 11370=NSM 11375=L 113bb=NSM 113c1=L",
  "113ce=NSM 113cf=L 113d0=NSM 113d1=L 113d2=NSM 113d3=L 113e1=NSM 113e3=L 11438=NSM 11440=L",
  "11442=NSM 11445=L 11446=NSM 11447=L 1145e=NSM 1145f=L 114b3=NSM 114b9=L 114ba=NSM 114bb=L",
  "114bf=NSM 114c1=L 114c2=NSM 114c4=L 115b2=NSM 115b6=L 115bc=NSM 115be=L 115bf=NSM 115c1=L",
  "115dc=NSM 115de=L 11633=NSM 1163b=L 1163d=NSM 1163e=L 1163f=NSM 11641=L 11660=ON 1166d=L",
  "116ab=NSM 116ac=L 116ad=NSM 116ae=L 116b0=NSM 116b6=L 116b7=NSM 116b8=L 1171d=NSM 1171e=L",
  "1171f=NSM 11720=L 11722=NSM 11726=L 11727=NSM 1172c=L 1182f=NSM 11838=L 11839=NSM 1183b=L",
  "1193b=NSM 1193d=L 1193e=NSM 1193f=L 11943=NSM 11944=L 119d4=NSM 119d8=L 119da=NSM 119dc=L",
  "119e0=NSM 119e1=L 11a01=NSM 11a07=L 11a09=NSM 11a0b=L 11a33=NSM 11a39=L 11a3b=NSM 11a3f=L",
  "11a47=NSM 11a48=L 11a51=NSM 11a57=L 11a59=NSM 11a5c=L 11a8a=NSM 11a97=L 11a98=NSM 11a9a=L",
  "11b60=NSM 11b61=L 11b62=NSM 11b65=L 11b66=NSM 11b67=L 11c30=NSM 11c37=L 11c38=NSM 11c3e=L",
  "11c92=NSM 11ca8=L 11caa=NSM 11cb1=L 11cb2=NSM 11cb4=L 11cb5=NSM 11cb7=L 11d31=NSM 11d37=L",
  "11d3a=NSM 11d3b=L 11d3c=NSM 11d3e=L 11d3f=NSM 11d46=L 11d47=NSM 11d48=L 11d90=NSM 11d92=L",
  "11d95=NSM 11d96=L 11d97=NSM 11d98=L 11ef3=NSM 11ef5=L 11f00=NSM 11f02=L 11f36=NSM 11f3b=L",
  "11f40=NSM 11f41=L 11f42=NSM 11f43=L 11f5a=NSM 11f5b=L 11fd5=ON 11fdd=ET 11fe1=ON 11ff2=L",
  "13440=NSM 13441=L 13447=NSM 13456=L 1611e=NSM 1612a=L 1612d=NSM 16130=L 16af0=NSM 16af5=L",
  "16b30=NSM 16b37=L 16f4f=NSM 16f50=L 16f8f=NSM 16f93=L 16fe2=ON 16fe3=L 16fe4=NSM 16fe5=L",
  "1bc9d=NSM 1bc9f=L 1bca0=BN 1bca4=L 1cc00=ON 1ccf0=EN 1ccfa=ON 1ccfd=L 1cd00=ON 1ceb4=L 1ceba=ON",
  "1ced1=L 1cee0=ON 1cef1=L 1cf00=NSM 1cf2e=L 1cf30=NSM 1cf47=L 1d167=NSM 1d16a=L 1d173=BN",
  "1d17b=NSM 1d183=L 1d185=NSM 1d18c=L 1d1aa=NSM 1d1ae=L 1d1e9=ON 1d1eb=L 1d200=ON 1d242=NSM",
  "1d245=ON 1d246=L 1d300=ON 1d357=L 1d6db=ON 1d6dc=L 1d715=ON 1d716=L 1d74f=ON 1d750=L 1d789=ON",
  "1d78a=L 1d7c3=ON 1d7c4=L 1d7ce=EN 1d800=L 1da00=NSM 1da37=L 1da3b=NSM 1da6d=L 1da75=NSM 1da76=L",
  "1da84=NSM 1da85=L 1da9b=NSM 1daa0=L 1daa1=NSM 1dab0=L 1e000=NSM 1e007=L 1e008=NSM 1e019=L",
  "1e01b=NSM 1e022=L 1e023=NSM 1e025=L 1e026=NSM 1e02b=L 1e08f=NSM 1e090=L 1e130=NSM 1e137=L",
  "1e2ae=NSM 1e2af=L 1e2ec=NSM 1e2f0=L 1e2ff=ET 1e300=L 1e4ec=NSM 1e4f0=L 1e5ee=NSM 1e5f0=L",
  "1e6e3=NSM 1e6e4=L 1e6e6=NSM 1e6e7=L 1e6ee=NSM 1e6f0=L 1e6f5=NSM 1e6f6=L 1e800=R 1e8d0=NSM",
  "1e8d7=R 1e944=NSM 1e94b=R 1ec70=AL 1ecc0=R 1ed00=AL 1ed50=R 1ee00=AL 1eef0=ON 1eef2=AL 1ef00=R",
  "1f000=ON 1f02c=L 1f030=ON 1f094=L 1f0a0=ON 1f0af=L 1f0b1=ON 1f0c0=L 1f0c1=ON 1f0d0=L 1f0d1=ON",
  "1f0f6=L 1f100=EN 1f10b=ON 1f110=L 1f12f=ON 1f130=L 1f16a=ON 1f170=L 1f1ad=ON 1f1ae=L 1f260=ON",
  "1f266=L 1f300=ON 1f6d9=L 1f6dc=ON 1f6ed=L 1f6f0=ON 1f6fd=L 1f700=ON 1f7da=L 1f7e0=ON 1f7ec=L",
  "1f7f0=ON 1f7f1=L 1f800=ON 1f80c=L 1f810=ON 1f848=L 1f850=ON 1f85a=L 1f860=ON 1f888=L 1f890=ON",
  "1f8ae=L 1f8b0=ON 1f8bc=L 1f8c0=ON 1f8c2=L 1f8d0=ON 1f8d9=L 1f900=ON 1fa58=L 1fa60=ON 1fa6e=L",
  "1fa70=ON 1fa7d=L 1fa80=ON 1fa8b=L 1fa8e=ON 1fac7=L 1fac8=ON 1fac9=L 1facd=ON 1fadd=L 1fadf=ON",
  "1faeb=L 1faef=ON 1faf9=L 1fb00=ON 1fb93=L 1fb94=ON 1fbf0=EN 1fbfa=ON 1fbfb=L 1fffe=BN 20000=L",
  "2fffe=BN 30000=L 3fffe=BN 40000=L 4fffe=BN 50000=L 5fffe=BN 60000=L 6fffe=BN 70000=L 7fffe=BN",
  "80000=L 8fffe=BN 90000=L 9fffe=BN a0000=L afffe=BN b0000=L bfffe=BN c0000=L cfffe=BN d0000=L",
  "dfffe=BN e0100=NSM e01f0=BN e1000=L efffe=BN f0000=L ffffe=BN 100000=L 10fffe=BN"]

/-- The bidirectional classes, read once. -/
def bidiClassTable : RangeTable BidiClass :=
  RangeTable.ofLines (fun v => some (BidiClass.ofName v)) bidiClassLines

/-- The bidirectional class of a character. -/
def bidiClass (c : Char) : BidiClass := bidiClassTable.get .leftToRight c.toNat

end ContentPublish.Text

/-! ## Characters shown as escapes

A quoted text written for debugging shows every character that would not
show plainly as an escape: a character that extends the grapheme before
it (a combining mark, a variation selector), a default-ignorable one (such
as a Hangul filler), and one of General_Category control, format,
surrogate, private use, unassigned, line or paragraph separator, or space
separator other than the space itself.

The table is taken from the Grapheme_Extend, Default_Ignorable_Code_Point
and General_Category properties of the Unicode Character Database 17.0:
one record per change,
a hexadecimal code point, `=`, and `1` where the escaped characters start
or `0` where they end.
-/

namespace ContentPublish.Text

/-- The ranges of characters shown as escapes. -/
def escapedLines : List String := [
  "0=1 20=0 7f=1 a1=0 ad=1 ae=0 300=1 370=0 378=1 37a=0 380=1 384=0 38b=1 38c=0 38d=1 38e=0 3a2=1",
  "3a3=0 483=1 48a=0 530=1 531=0 557=1 559=0 58b=1 58d=0 590=1 5be=0 5bf=1 5c0=0 5c1=1 5c3=0 5c4=1",
  "5c6=0 5c7=1 5d0=0 5eb=1 5ef=0 5f5=1 606=0 610=1 61b=0 61c=1 61d=0 64b=1 660=0 670=1 671=0 6d6=1",
  "6de=0 6df=1 6e5=0 6e7=1 6e9=0 6ea=1 6ee=0 70e=1 710=0 711=1 712=0 730=1 74d=0 7a6=1 7b1=0 7b2=1",
  "7c0=0 7eb=1 7f4=0 7fb=1 7fe=0 816=1 81a=0 81b=1 824=0 825=1 828=0 829=1 830=0 83f=1 840=0 859=1",
  "85e=0 85f=1 860=0 86b=1 870=0 890=1 8a0=0 8ca=1 903=0 93a=1 93b=0 93c=1 93d=0 941=1 949=0 94d=1",
  "94e=0 951=1 958=0 962=1 964=0 981=1 982=0 984=1 985=0 98d=1 98f=0 991=1 993=0 9a9=1 9aa=0 9b1=1",
  "9b2=0 9b3=1 9b6=0 9ba=1 9bd=0 9be=1 9bf=0 9c1=1 9c7=0 9c9=1 9cb=0 9cd=1 9ce=0 9cf=1 9dc=0 9de=1",
  "9df=0 9e2=1 9e6=0 9fe=1 a03=0 a04=1 a05=0 a0b=1 a0f=0 a11=1 a13=0 a29=1 a2a=0 a31=1 a32=0 a34=1",
  "a35=0 a37=1 a38=0 a3a=1 a3e=0 a41=1 a59=0 a5d=1 a5e=0 a5f=1 a66=0 a70=1 a72=0 a75=1 a76=0 a77=1",
  "a83=0 a84=1 a85=0 a8e=1 a8f=0 a92=1 a93=0 aa9=1 aaa=0 ab1=1 ab2=0 ab4=1 ab5=0 aba=1 abd=0 ac1=1",
  "ac9=0 aca=1 acb=0 acd=1 ad0=0 ad1=1 ae0=0 ae2=1 ae6=0 af2=1 af9=0 afa=1 b02=0 b04=1 b05=0 b0d=1",
  "b0f=0 b11=1 b13=0 b29=1 b2a=0 b31=1 b32=0 b34=1 b35=0 b3a=1 b3d=0 b3e=1 b40=0 b41=1 b47=0 b49=1",
  "b4b=0 b4d=1 b5c=0 b5e=1 b5f=0 b62=1 b66=0 b78=1 b83=0 b84=1 b85=0 b8b=1 b8e=0 b91=1 b92=0 b96=1",
  "b99=0 b9b=1 b9c=0 b9d=1 b9e=0 ba0=1 ba3=0 ba5=1 ba8=0 bab=1 bae=0 bba=1 bbf=0 bc0=1 bc1=0 bc3=1",
  "bc6=0 bc9=1 bca=0 bcd=1 bd0=0 bd1=1 be6=0 bfb=1 c01=0 c04=1 c05=0 c0d=1 c0e=0 c11=1 c12=0 c29=1",
  "c2a=0 c3a=1 c3d=0 c3e=1 c41=0 c45=1 c58=0 c5b=1 c5c=0 c5e=1 c60=0 c62=1 c66=0 c70=1 c77=0 c81=1",
  "c82=0 c8d=1 c8e=0 c91=1 c92=0 ca9=1 caa=0 cb4=1 cb5=0 cba=1 cbd=0 cbf=1 cc1=0 cc2=1 cc3=0 cc5=1",
  "cdc=0 cdf=1 ce0=0 ce2=1 ce6=0 cf0=1 cf1=0 cf4=1 d02=0 d0d=1 d0e=0 d11=1 d12=0 d3b=1 d3d=0 d3e=1",
  "d3f=0 d41=1 d46=0 d49=1 d4a=0 d4d=1 d4e=0 d50=1 d54=0 d57=1 d58=0 d62=1 d66=0 d80=1 d82=0 d84=1",
  "d85=0 d97=1 d9a=0 db2=1 db3=0 dbc=1 dbd=0 dbe=1 dc0=0 dc7=1 dd0=0 dd2=1 dd8=0 ddf=1 de6=0 df0=1",
  "df2=0 df5=1 e01=0 e31=1 e32=0 e34=1 e3f=0 e47=1 e4f=0 e5c=1 e81=0 e83=1 e84=0 e85=1 e86=0 e8b=1",
  "e8c=0 ea4=1 ea5=0 ea6=1 ea7=0 eb1=1 eb2=0 eb4=1 ebd=0 ebe=1 ec0=0 ec5=1 ec6=0 ec7=1 ed0=0 eda=1",
  "edc=0 ee0=1 f00=0 f18=1 f1a=0 f35=1 f36=0 f37=1 f38=0 f39=1 f3a=0 f48=1 f49=0 f6d=1 f7f=0 f80=1",
  "f85=0 f86=1 f88=0 f8d=1 fbe=0 fc6=1 fc7=0 fcd=1 fce=0 fdb=1 1000=0 102d=1 1031=0 1032=1 1038=0",
  "1039=1 103b=0 103d=1 103f=0 1058=1 105a=0 105e=1 1061=0 1071=1 1075=0 1082=1 1083=0 1085=1",
  "1087=0 108d=1 108e=0 109d=1 109e=0 10c6=1 10c7=0 10c8=1 10cd=0 10ce=1 10d0=0 115f=1 1161=0",
  "1249=1 124a=0 124e=1 1250=0 1257=1 1258=0 1259=1 125a=0 125e=1 1260=0 1289=1 128a=0 128e=1",
  "1290=0 12b1=1 12b2=0 12b6=1 12b8=0 12bf=1 12c0=0 12c1=1 12c2=0 12c6=1 12c8=0 12d7=1 12d8=0",
  "1311=1 1312=0 1316=1 1318=0 135b=1 1360=0 137d=1 1380=0 139a=1 13a0=0 13f6=1 13f8=0 13fe=1",
  "1400=0 1680=1 1681=0 169d=1 16a0=0 16f9=1 1700=0 1712=1 171f=0 1732=1 1735=0 1737=1 1740=0",
  "1752=1 1760=0 176d=1 176e=0 1771=1 1780=0 17b4=1 17b6=0 17b7=1 17be=0 17c6=1 17c7=0 17c9=1",
  "17d4=0 17dd=1 17e0=0 17ea=1 17f0=0 17fa=1 1800=0 180b=1 1810=0 181a=1 1820=0 1879=1 1880=0",
  "1885=1 1887=0 18a9=1 18aa=0 18ab=1 18b0=0 18f6=1 1900=0 191f=1 1923=0 1927=1 1929=0 192c=1",
  "1930=0 1932=1 1933=0 1939=1 1940=0 1941=1 1944=0 196e=1 1970=0 1975=1 1980=0 19ac=1 19b0=0",
  "19ca=1 19d0=0 19db=1 19de=0 1a17=1 1a19=0 1a1b=1 1a1e=0 1a56=1 1a57=0 1a58=1 1a61=0 1a62=1",
  "1a63=0 1a65=1 1a6d=0 1a73=1 1a80=0 1a8a=1 1a90=0 1a9a=1 1aa0=0 1aae=1 1b04=0 1b34=1 1b3e=0",
  "1b42=1 1b45=0 1b4d=1 1b4e=0 1b6b=1 1b74=0 1b80=1 1b82=0 1ba2=1 1ba6=0 1ba8=1 1bae=0 1be6=1",
  "1be7=0 1be8=1 1bea=0 1bed=1 1bee=0 1bef=1 1bfc=0 1c2c=1 1c34=0 1c36=1 1c3b=0 1c4a=1 1c4d=0",
  "1c8b=1 1c90=0 1cbb=1 1cbd=0 1cc8=1 1cd3=0 1cd4=1 1ce1=0 1ce2=1 1ce9=0 1ced=1 1cee=0 1cf4=1",
  "1cf5=0 1cf8=1 1cfa=0 1cfb=1 1d00=0 1dc0=1 1e00=0 1f16=1 1f18=0 1f1e=1 1f20=0 1f46=1 1f48=0",
  "1f4e=1 1f50=0 1f58=1 1f59=0 1f5a=1 1f5b=0 1f5c=1 1f5d=0 1f5e=1 1f5f=0 1f7e=1 1f80=0 1fb5=1",
  "1fb6=0 1fc5=1 1fc6=0 1fd4=1 1fd6=0 1fdc=1 1fdd=0 1ff0=1 1ff2=0 1ff5=1 1ff6=0 1fff=1 2010=0",
  "2028=1 2030=0 205f=1 2070=0 2072=1 2074=0 208f=1 2090=0 209d=1 20a0=0 20c2=1 2100=0 218c=1",
  "2190=0 242a=1 2440=0 244b=1 2460=0 2b74=1 2b76=0 2cef=1 2cf2=0 2cf4=1 2cf9=0 2d26=1 2d27=0",
  "2d28=1 2d2d=0 2d2e=1 2d30=0 2d68=1 2d6f=0 2d71=1 2d80=0 2d97=1 2da0=0 2da7=1 2da8=0 2daf=1",
  "2db0=0 2db7=1 2db8=0 2dbf=1 2dc0=0 2dc7=1 2dc8=0 2dcf=1 2dd0=0 2dd7=1 2dd8=0 2ddf=1 2e00=0",
  "2e5e=1 2e80=0 2e9a=1 2e9b=0 2ef4=1 2f00=0 2fd6=1 2ff0=0 3000=1 3001=0 302a=1 3030=0 3040=1",
  "3041=0 3097=1 309b=0 3100=1 3105=0 3130=1 3131=0 3164=1 3165=0 318f=1 3190=0 31e6=1 31ef=0",
  "321f=1 3220=0 a48d=1 a490=0 a4c7=1 a4d0=0 a62c=1 a640=0 a66f=1 a673=0 a674=1 a67e=0 a69e=1",
  "a6a0=0 a6f0=1 a6f2=0 a6f8=1 a700=0 a7dd=1 a7f1=0 a802=1 a803=0 a806=1 a807=0 a80b=1 a80c=0",
  "a825=1 a827=0 a82c=1 a830=0 a83a=1 a840=0 a878=1 a880=0 a8c4=1 a8ce=0 a8da=1 a8f2=0 a8ff=1",
  "a900=0 a926=1 a92e=0 a947=1 a952=0 a953=1 a95f=0 a97d=1 a983=0 a9b3=1 a9b4=0 a9b6=1 a9ba=0",
  "a9bc=1 a9be=0 a9c0=1 a9c1=0 a9ce=1 a9cf=0 a9da=1 a9de=0 a9e5=1 a9e6=0 a9ff=1 aa00=0 aa29=1",
  "aa2f=0 aa31=1 aa33=0 aa35=1 aa40=0 aa43=1 aa44=0 aa4c=1 aa4d=0 aa4e=1 aa50=0 aa5a=1 aa5c=0",
  "aa7c=1 aa7d=0 aab0=1 aab1=0 aab2=1 aab5=0 aab7=1 aab9=0 aabe=1 aac0=0 aac1=1 aac2=0 aac3=1",
  "aadb=0 aaec=1 aaee=0 aaf6=1 ab01=0 ab07=1 ab09=0 ab0f=1 ab11=0 ab17=1 ab20=0 ab27=1 ab28=0",
  "ab2f=1 ab30=0 ab6c=1 ab70=0 abe5=1 abe6=0 abe8=1 abe9=0 abed=1 abf0=0 abfa=1 ac00=0 d7a4=1",
  "d7b0=0 d7c7=1 d7cb=0 d7fc=1 f900=0 fa6e=1 fa70=0 fada=1 fb00=0 fb07=1 fb13=0 fb18=1 fb1d=0",
  "fb1e=1 fb1f=0 fb37=1 fb38=0 fb3d=1 fb3e=0 fb3f=1 fb40=0 fb42=1 fb43=0 fb45=1 fb46=0 fdd0=1",
  "fdf0=0 fe00=1 fe10=0 fe1a=1 fe30=0 fe53=1 fe54=0 fe67=1 fe68=0 fe6c=1 fe70=0 fe75=1 fe76=0",
  "fefd=1 ff01=0 ff9e=1 ffa1=0 ffbf=1 ffc2=0 ffc8=1 ffca=0 ffd0=1 ffd2=0 ffd8=1 ffda=0 ffdd=1",
  "ffe0=0 ffe7=1 ffe8=0 ffef=1 fffc=0 fffe=1 10000=0 1000c=1 1000d=0 10027=1 10028=0 1003b=1",
  "1003c=0 1003e=1 1003f=0 1004e=1 10050=0 1005e=1 10080=0 100fb=1 10100=0 10103=1 10107=0 10134=1",
  "10137=0 1018f=1 10190=0 1019d=1 101a0=0 101a1=1 101d0=0 101fd=1 10280=0 1029d=1 102a0=0 102d1=1",
  "102e1=0 102fc=1 10300=0 10324=1 1032d=0 1034b=1 10350=0 10376=1 10380=0 1039e=1 1039f=0 103c4=1",
  "103c8=0 103d6=1 10400=0 1049e=1 104a0=0 104aa=1 104b0=0 104d4=1 104d8=0 104fc=1 10500=0 10528=1",
  "10530=0 10564=1 1056f=0 1057b=1 1057c=0 1058b=1 1058c=0 10593=1 10594=0 10596=1 10597=0 105a2=1",
  "105a3=0 105b2=1 105b3=0 105ba=1 105bb=0 105bd=1 105c0=0 105f4=1 10600=0 10737=1 10740=0 10756=1",
  "10760=0 10768=1 10780=0 10786=1 10787=0 107b1=1 107b2=0 107bb=1 10800=0 10806=1 10808=0 10809=1",
  "1080a=0 10836=1 10837=0 10839=1 1083c=0 1083d=1 1083f=0 10856=1 10857=0 1089f=1 108a7=0 108b0=1",
  "108e0=0 108f3=1 108f4=0 108f6=1 108fb=0 1091c=1 1091f=0 1093a=1 1093f=0 1095a=1 10980=0 109b8=1",
  "109bc=0 109d0=1 109d2=0 10a01=1 10a10=0 10a14=1 10a15=0 10a18=1 10a19=0 10a36=1 10a40=0 10a49=1",
  "10a50=0 10a59=1 10a60=0 10aa0=1 10ac0=0 10ae5=1 10aeb=0 10af7=1 10b00=0 10b36=1 10b39=0 10b56=1",
  "10b58=0 10b73=1 10b78=0 10b92=1 10b99=0 10b9d=1 10ba9=0 10bb0=1 10c00=0 10c49=1 10c80=0 10cb3=1",
  "10cc0=0 10cf3=1 10cfa=0 10d24=1 10d30=0 10d3a=1 10d40=0 10d66=1 10d6e=0 10d86=1 10d8e=0 10d90=1",
  "10e60=0 10e7f=1 10e80=0 10eaa=1 10ead=0 10eae=1 10eb0=0 10eb2=1 10ec2=0 10ec8=1 10ed0=0 10ed9=1",
  "10f00=0 10f28=1 10f30=0 10f46=1 10f51=0 10f5a=1 10f70=0 10f82=1 10f86=0 10f8a=1 10fb0=0 10fcc=1",
  "10fe0=0 10ff7=1 11000=0 11001=1 11002=0 11038=1 11047=0 1104e=1 11052=0 11070=1 11071=0 11073=1",
  "11075=0 11076=1 11082=0 110b3=1 110b7=0 110b9=1 110bb=0 110bd=1 110be=0 110c2=1 110d0=0 110e9=1",
  "110f0=0 110fa=1 11103=0 11127=1 1112c=0 1112d=1 11136=0 11148=1 11150=0 11173=1 11174=0 11177=1",
  "11182=0 111b6=1 111bf=0 111c0=1 111c1=0 111c9=1 111cd=0 111cf=1 111d0=0 111e0=1 111e1=0 111f5=1",
  "11200=0 11212=1 11213=0 1122f=1 11232=0 11234=1 11238=0 1123e=1 1123f=0 11241=1 11280=0 11287=1",
  "11288=0 11289=1 1128a=0 1128e=1 1128f=0 1129e=1 1129f=0 112aa=1 112b0=0 112df=1 112e0=0 112e3=1",
  "112f0=0 112fa=1 11302=0 11304=1 11305=0 1130d=1 1130f=0 11311=1 11313=0 11329=1 1132a=0 11331=1",
  "11332=0 11334=1 11335=0 1133a=1 1133d=0 1133e=1 1133f=0 11340=1 11341=0 11345=1 11347=0 11349=1",
  "1134b=0 1134d=1 11350=0 11351=1 1135d=0 11364=1 11380=0 1138a=1 1138b=0 1138c=1 1138e=0 1138f=1",
  "11390=0 113b6=1 113b7=0 113b8=1 113b9=0 113bb=1 113ca=0 113cb=1 113cc=0 113ce=1 113d1=0 113d2=1",
  "113d3=0 113d6=1 113d7=0 113d9=1 11400=0 11438=1 11440=0 11442=1 11445=0 11446=1 11447=0 1145c=1",
  "1145d=0 1145e=1 1145f=0 11462=1 11480=0 114b0=1 114b1=0 114b3=1 114b9=0 114ba=1 114bb=0 114bd=1",
  "114be=0 114bf=1 114c1=0 114c2=1 114c4=0 114c8=1 114d0=0 114da=1 11580=0 115af=1 115b0=0 115b2=1",
  "115b8=0 115bc=1 115be=0 115bf=1 115c1=0 115dc=1 11600=0 11633=1 1163b=0 1163d=1 1163e=0 1163f=1",
  "11641=0 11645=1 11650=0 1165a=1 11660=0 1166d=1 11680=0 116ab=1 116ac=0 116ad=1 116ae=0 116b0=1",
  "116b8=0 116ba=1 116c0=0 116ca=1 116d0=0 116e4=1 11700=0 1171b=1 1171e=0 1171f=1 11720=0 11722=1",
  "11726=0 11727=1 11730=0 11747=1 11800=0 1182f=1 11838=0 11839=1 1183b=0 1183c=1 118a0=0 118f3=1",
  "118ff=0 11907=1 11909=0 1190a=1 1190c=0 11914=1 11915=0 11917=1 11918=0 11930=1 11931=0 11936=1",
  "11937=0 11939=1 1193f=0 11943=1 11944=0 11947=1 11950=0 1195a=1 119a0=0 119a8=1 119aa=0 119d4=1",
  "119dc=0 119e0=1 119e1=0 119e5=1 11a00=0 11a01=1 11a0b=0 11a33=1 11a39=0 11a3b=1 11a3f=0 11a47=1",
  "11a50=0 11a51=1 11a57=0 11a59=1 11a5c=0 11a8a=1 11a97=0 11a98=1 11a9a=0 11aa3=1 11ab0=0 11af9=1",
  "11b00=0 11b0a=1 11b61=0 11b62=1 11b65=0 11b66=1 11b67=0 11b68=1 11bc0=0 11be2=1 11bf0=0 11bfa=1",
  "11c00=0 11c09=1 11c0a=0 11c30=1 11c3e=0 11c3f=1 11c40=0 11c46=1 11c50=0 11c6d=1 11c70=0 11c90=1",
  "11ca9=0 11caa=1 11cb1=0 11cb2=1 11cb4=0 11cb5=1 11d00=0 11d07=1 11d08=0 11d0a=1 11d0b=0 11d31=1",
  "11d46=0 11d47=1 11d50=0 11d5a=1 11d60=0 11d66=1 11d67=0 11d69=1 11d6a=0 11d8f=1 11d93=0 11d95=1",
  "11d96=0 11d97=1 11d98=0 11d99=1 11da0=0 11daa=1 11db0=0 11ddc=1 11de0=0 11dea=1 11ee0=0 11ef3=1",
  "11ef5=0 11ef9=1 11f02=0 11f11=1 11f12=0 11f36=1 11f3e=0 11f40=1 11f43=0 11f5a=1 11fb0=0 11fb1=1",
  "11fc0=0 11ff2=1 11fff=0 1239a=1 12400=0 1246f=1 12470=0 12475=1 12480=0 12544=1 12f90=0 12ff3=1",
  "13000=0 13430=1 13441=0 13447=1 13460=0 143fb=1 14400=0 14647=1 16100=0 1611e=1 1612a=0 1612d=1",
  "16130=0 1613a=1 16800=0 16a39=1 16a40=0 16a5f=1 16a60=0 16a6a=1 16a6e=0 16abf=1 16ac0=0 16aca=1",
  "16ad0=0 16aee=1 16af5=0 16af6=1 16b00=0 16b30=1 16b37=0 16b46=1 16b50=0 16b5a=1 16b5b=0 16b62=1",
  "16b63=0 16b78=1 16b7d=0 16b90=1 16d40=0 16d7a=1 16e40=0 16e9b=1 16ea0=0 16eb9=1 16ebb=0 16ed4=1",
  "16f00=0 16f4b=1 16f50=0 16f88=1 16f93=0 16fa0=1 16fe0=0 16fe4=1 16ff2=0 16ff7=1 17000=0 18cd6=1",
  "18cff=0 18d1f=1 18d80=0 18df3=1 1aff0=0 1aff4=1 1aff5=0 1affc=1 1affd=0 1afff=1 1b000=0 1b123=1",
  "1b132=0 1b133=1 1b150=0 1b153=1 1b155=0 1b156=1 1b164=0 1b168=1 1b170=0 1b2fc=1 1bc00=0 1bc6b=1",
  "1bc70=0 1bc7d=1 1bc80=0 1bc89=1 1bc90=0 1bc9a=1 1bc9c=0 1bc9d=1 1bc9f=0 1bca0=1 1cc00=0 1ccfd=1",
  "1cd00=0 1ceb4=1 1ceba=0 1ced1=1 1cee0=0 1cef1=1 1cf50=0 1cfc4=1 1d000=0 1d0f6=1 1d100=0 1d127=1",
  "1d129=0 1d165=1 1d16a=0 1d16d=1 1d183=0 1d185=1 1d18c=0 1d1aa=1 1d1ae=0 1d1eb=1 1d200=0 1d242=1",
  "1d245=0 1d246=1 1d2c0=0 1d2d4=1 1d2e0=0 1d2f4=1 1d300=0 1d357=1 1d360=0 1d379=1 1d400=0 1d455=1",
  "1d456=0 1d49d=1 1d49e=0 1d4a0=1 1d4a2=0 1d4a3=1 1d4a5=0 1d4a7=1 1d4a9=0 1d4ad=1 1d4ae=0 1d4ba=1",
  "1d4bb=0 1d4bc=1 1d4bd=0 1d4c4=1 1d4c5=0 1d506=1 1d507=0 1d50b=1 1d50d=0 1d515=1 1d516=0 1d51d=1",
  "1d51e=0 1d53a=1 1d53b=0 1d53f=1 1d540=0 1d545=1 1d546=0 1d547=1 1d54a=0 1d551=1 1d552=0 1d6a6=1",
  "1d6a8=0 1d7cc=1 1d7ce=0 1da00=1 1da37=0 1da3b=1 1da6d=0 1da75=1 1da76=0 1da84=1 1da85=0 1da8c=1",
  "1df00=0 1df1f=1 1df25=0 1df2b=1 1e030=0 1e06e=1 1e100=0 1e12d=1 1e137=0 1e13e=1 1e140=0 1e14a=1",
  "1e14e=0 1e150=1 1e290=0 1e2ae=1 1e2c0=0 1e2ec=1 1e2f0=0 1e2fa=1 1e2ff=0 1e300=1 1e4d0=0 1e4ec=1",
  "1e4f0=0 1e4fa=1 1e5d0=0 1e5ee=1 1e5f0=0 1e5fb=1 1e5ff=0 1e600=1 1e6c0=0 1e6df=1 1e6e0=0 1e6e3=1",
  "1e6e4=0 1e6e6=1 1e6e7=0 1e6ee=1 1e6f0=0 1e6f5=1 1e6fe=0 1e700=1 1e7e0=0 1e7e7=1 1e7e8=0 1e7ec=1",
  "1e7ed=0 1e7ef=1 1e7f0=0 1e7ff=1 1e800=0 1e8c5=1 1e8c7=0 1e8d0=1 1e900=0 1e944=1 1e94b=0 1e94c=1",
  "1e950=0 1e95a=1 1e95e=0 1e960=1 1ec71=0 1ecb5=1 1ed01=0 1ed3e=1 1ee00=0 1ee04=1 1ee05=0 1ee20=1",
  "1ee21=0 1ee23=1 1ee24=0 1ee25=1 1ee27=0 1ee28=1 1ee29=0 1ee33=1 1ee34=0 1ee38=1 1ee39=0 1ee3a=1",
  "1ee3b=0 1ee3c=1 1ee42=0 1ee43=1 1ee47=0 1ee48=1 1ee49=0 1ee4a=1 1ee4b=0 1ee4c=1 1ee4d=0 1ee50=1",
  "1ee51=0 1ee53=1 1ee54=0 1ee55=1 1ee57=0 1ee58=1 1ee59=0 1ee5a=1 1ee5b=0 1ee5c=1 1ee5d=0 1ee5e=1",
  "1ee5f=0 1ee60=1 1ee61=0 1ee63=1 1ee64=0 1ee65=1 1ee67=0 1ee6b=1 1ee6c=0 1ee73=1 1ee74=0 1ee78=1",
  "1ee79=0 1ee7d=1 1ee7e=0 1ee7f=1 1ee80=0 1ee8a=1 1ee8b=0 1ee9c=1 1eea1=0 1eea4=1 1eea5=0 1eeaa=1",
  "1eeab=0 1eebc=1 1eef0=0 1eef2=1 1f000=0 1f02c=1 1f030=0 1f094=1 1f0a0=0 1f0af=1 1f0b1=0 1f0c0=1",
  "1f0c1=0 1f0d0=1 1f0d1=0 1f0f6=1 1f100=0 1f1ae=1 1f1e6=0 1f203=1 1f210=0 1f23c=1 1f240=0 1f249=1",
  "1f250=0 1f252=1 1f260=0 1f266=1 1f300=0 1f6d9=1 1f6dc=0 1f6ed=1 1f6f0=0 1f6fd=1 1f700=0 1f7da=1",
  "1f7e0=0 1f7ec=1 1f7f0=0 1f7f1=1 1f800=0 1f80c=1 1f810=0 1f848=1 1f850=0 1f85a=1 1f860=0 1f888=1",
  "1f890=0 1f8ae=1 1f8b0=0 1f8bc=1 1f8c0=0 1f8c2=1 1f8d0=0 1f8d9=1 1f900=0 1fa58=1 1fa60=0 1fa6e=1",
  "1fa70=0 1fa7d=1 1fa80=0 1fa8b=1 1fa8e=0 1fac7=1 1fac8=0 1fac9=1 1facd=0 1fadd=1 1fadf=0 1faeb=1",
  "1faef=0 1faf9=1 1fb00=0 1fb93=1 1fb94=0 1fbfb=1 20000=0 2a6e0=1 2a700=0 2b81e=1 2b820=0 2ceae=1",
  "2ceb0=0 2ebe1=1 2ebf0=0 2ee5e=1 2f800=0 2fa1e=1 30000=0 3134b=1 31350=0 3347a=1"]

/-- The ranges of characters shown as escapes, read once. -/
def escapedTable : RangeTable Bool := RangeTable.ofLines (fun v => some (v == "1")) escapedLines

/-- The character is shown as an escape in a quoted debugging text. -/
def shownEscaped (c : Char) : Bool := escapedTable.get true c.toNat

end ContentPublish.Text
