import GestureGraph.Text.CharSet

namespace GestureGraph.Pattern

namespace Script

structure Title where
  code : String
  names : List String

def Title.ofField (field : List Char) : Title :=
  let (code, names) := Text.cutField '=' field
  let others := (Text.fields ',' names).filter (!·.isEmpty)
  ⟨String.ofList code, (code.map Char.toLower :: others).map String.ofList⟩

def titles : List Title := List.map Title.ofField <| Text.entries
  ["Adlm=adlam Aghb=caucasianalbanian Ahom Arab=arabic Armi=imperialaramaic Armn=armenian",
   "Avst=avestan Bali=balinese Bamu=bamum Bass=bassavah Batk=batak Beng=bengali Bhks=bhaiksuki",
   "Bopo=bopomofo Brah=brahmi Brai=braille Bugi=buginese Buhd=buhid Cakm=chakma",
   "Cans=canadianaboriginal Cari=carian Cham Cher=cherokee Chrs=chorasmian Copt=coptic,qaac",
   "Cpmn=cyprominoan Cprt=cypriot Cyrl=cyrillic Deva=devanagari Diak=divesakuru Dogr=dogra",
   "Dsrt=deseret Dupl=duployan Egyp=egyptianhieroglyphs Elba=elbasan Elym=elymaic Ethi=ethiopic",
   "Gara=garay Geor=georgian Glag=glagolitic Gong=gunjalagondi Gonm=masaramgondi Goth=gothic",
   "Gran=grantha Grek=greek Gujr=gujarati Gukh=gurungkhema Guru=gurmukhi Hang=hangul Hani=han",
   "Hano=hanunoo Hatr=hatran Hebr=hebrew Hira=hiragana Hluw=anatolianhieroglyphs",
   "Hmng=pahawhhmong Hmnp=nyiakengpuachuehmong Hung=oldhungarian Ital=olditalic Java=javanese",
   "Kali=kayahli Kana=katakana Kawi Khar=kharoshthi Khmr=khmer Khoj=khojki",
   "Kits=khitansmallscript Knda=kannada Krai=kiratrai Kthi=kaithi Lana=taitham Laoo=lao",
   "Latn=latin Lepc=lepcha Limb=limbu Lina=lineara Linb=linearb Lisu Lyci=lycian Lydi=lydian",
   "Mahj=mahajani Maka=makasar Mand=mandaic Mani=manichaean Marc=marchen Medf=medefaidrin",
   "Mend=mendekikakui Merc=meroiticcursive Mero=meroitichieroglyphs Mlym=malayalam Modi",
   "Mong=mongolian Mroo=mro Mtei=meeteimayek Mult=multani Mymr=myanmar Nagm=nagmundari",
   "Nand=nandinagari Narb=oldnortharabian Nbat=nabataean Newa Nkoo=nko Nshu=nushu Ogam=ogham",
   "Olck=olchiki Onao=olonal Orkh=oldturkic Orya=oriya Osge=osage Osma=osmanya Ougr=olduyghur",
   "Palm=palmyrene Pauc=paucinhau Perm=oldpermic Phag=phagspa Phli=inscriptionalpahlavi",
   "Phlp=psalterpahlavi Phnx=phoenician Plrd=miao Prti=inscriptionalparthian Rjng=rejang",
   "Rohg=hanifirohingya Runr=runic Samr=samaritan Sarb=oldsoutharabian Saur=saurashtra",
   "Sgnw=signwriting Shaw=shavian Shrd=sharada Sidd=siddham Sind=khudawadi Sinh=sinhala",
   "Sogd=sogdian Sogo=oldsogdian Sora=sorasompeng Soyo=soyombo Sund=sundanese Sunu=sunuwar",
   "Sylo=sylotinagri Syrc=syriac Tagb=tagbanwa Takr=takri Tale=taile Talu=newtailue Taml=tamil",
   "Tang=tangut Tavt=taiviet Telu=telugu Tfng=tifinagh Tglg=tagalog Thaa=thaana Thai",
   "Tibt=tibetan Tirh=tirhuta Tnsa=tangsa Todr=todhri Toto Tutg=tulutigalari Ugar=ugaritic",
   "Vaii=vai Vith=vithkuqi Wara=warangciti Wcho=wancho Xpeo=oldpersian Xsux=cuneiform",
   "Yezi=yezidi Yiii=yi Zanb=zanabazarsquare Zinh=inherited,qaai Zyyy=common"]

structure Run where
  range : Text.Range
  codes : List String

def Run.ofField (field : List Char) : Run :=
  let (range, codes) := Text.cutField '=' field
  ⟨Text.Range.ofField range, (Text.fields ',' codes).map String.ofList⟩

/-- The script of each character. Ranges run on over code points that are not assigned. -/
def runs : List Run := List.map Run.ofField <| Text.entries
  ["0-40=Zyyy 41-5A=Latn 5B-60=Zyyy 61-7A=Latn 7B-A9=Zyyy AA=Latn AB-B9=Zyyy BA=Latn BB-BF=Zyyy",
   "C0-D6=Latn D7=Zyyy D8-F6=Latn F7=Zyyy F8-2B8=Latn 2B9-2DF=Zyyy 2E0-2E4=Latn 2E5-2E9=Zyyy",
   "2EA-2EB=Bopo 2EC-2FF=Zyyy 300-36F=Zinh 370-373=Grek 374=Zyyy 375-37D=Grek 37E=Zyyy",
   "37F-384=Grek 385=Zyyy 386=Grek 387=Zyyy 388-3E1=Grek 3E2-3EF=Copt 3F0-3FF=Grek 400-484=Cyrl",
   "485-486=Zinh 487-52F=Cyrl 531-58F=Armn 591-5F4=Hebr 600-604=Arab 605=Zyyy 606-60B=Arab",
   "60C=Zyyy 60D-61A=Arab 61B=Zyyy 61C-61E=Arab 61F=Zyyy 620-63F=Arab 640=Zyyy 641-64A=Arab",
   "64B-655=Zinh 656-66F=Arab 670=Zinh 671-6DC=Arab 6DD=Zyyy 6DE-6FF=Arab 700-74F=Syrc",
   "750-77F=Arab 780-7B1=Thaa 7C0-7FF=Nkoo 800-83E=Samr 840-85E=Mand 860-86A=Syrc 870-8E1=Arab",
   "8E2=Zyyy 8E3-8FF=Arab 900-950=Deva 951-954=Zinh 955-963=Deva 964-965=Zyyy 966-97F=Deva",
   "980-9FE=Beng A01-A76=Guru A81-AFF=Gujr B01-B77=Orya B82-BFA=Taml C00-C7F=Telu C80-CF3=Knda",
   "D00-D7F=Mlym D81-DF4=Sinh E01-E3A=Thai E3F=Zyyy E40-E5B=Thai E81-EDF=Laoo F00-FD4=Tibt",
   "FD5-FD8=Zyyy FD9-FDA=Tibt 1000-109F=Mymr 10A0-10FA=Geor 10FB=Zyyy 10FC-10FF=Geor",
   "1100-11FF=Hang 1200-1399=Ethi 13A0-13FD=Cher 1400-167F=Cans 1680-169C=Ogam 16A0-16EA=Runr",
   "16EB-16ED=Zyyy 16EE-16F8=Runr 1700-171F=Tglg 1720-1734=Hano 1735-1736=Zyyy 1740-1753=Buhd",
   "1760-1773=Tagb 1780-17F9=Khmr 1800-1801=Mong 1802-1803=Zyyy 1804=Mong 1805=Zyyy",
   "1806-18AA=Mong 18B0-18F5=Cans 1900-194F=Limb 1950-1974=Tale 1980-19DF=Talu 19E0-19FF=Khmr",
   "1A00-1A1F=Bugi 1A20-1AAD=Lana 1AB0-1ACE=Zinh 1B00-1B7F=Bali 1B80-1BBF=Sund 1BC0-1BFF=Batk",
   "1C00-1C4F=Lepc 1C50-1C7F=Olck 1C80-1C8A=Cyrl 1C90-1CBF=Geor 1CC0-1CC7=Sund 1CD0-1CD2=Zinh",
   "1CD3=Zyyy 1CD4-1CE0=Zinh 1CE1=Zyyy 1CE2-1CE8=Zinh 1CE9-1CEC=Zyyy 1CED=Zinh 1CEE-1CF3=Zyyy",
   "1CF4=Zinh 1CF5-1CF7=Zyyy 1CF8-1CF9=Zinh 1CFA=Zyyy 1D00-1D25=Latn 1D26-1D2A=Grek 1D2B=Cyrl",
   "1D2C-1D5C=Latn 1D5D-1D61=Grek 1D62-1D65=Latn 1D66-1D6A=Grek 1D6B-1D77=Latn 1D78=Cyrl",
   "1D79-1DBE=Latn 1DBF=Grek 1DC0-1DFF=Zinh 1E00-1EFF=Latn 1F00-1FFE=Grek 2000-200B=Zyyy",
   "200C-200D=Zinh 200E-2070=Zyyy 2071=Latn 2074-207E=Zyyy 207F=Latn 2080-208E=Zyyy",
   "2090-209C=Latn 20A0-20C0=Zyyy 20D0-20F0=Zinh 2100-2125=Zyyy 2126=Grek 2127-2129=Zyyy",
   "212A-212B=Latn 212C-2131=Zyyy 2132=Latn 2133-214D=Zyyy 214E=Latn 214F-215F=Zyyy",
   "2160-2188=Latn 2189-27FF=Zyyy 2800-28FF=Brai 2900-2BFF=Zyyy 2C00-2C5F=Glag 2C60-2C7F=Latn",
   "2C80-2CFF=Copt 2D00-2D2D=Geor 2D30-2D7F=Tfng 2D80-2DDE=Ethi 2DE0-2DFF=Cyrl 2E00-2E5D=Zyyy",
   "2E80-2FD5=Hani 2FF0-3004=Zyyy 3005=Hani 3006=Zyyy 3007=Hani 3008-3020=Zyyy 3021-3029=Hani",
   "302A-302D=Zinh 302E-302F=Hang 3030-3037=Zyyy 3038-303B=Hani 303C-303F=Zyyy 3041-3096=Hira",
   "3099-309A=Zinh 309B-309C=Zyyy 309D-309F=Hira 30A0=Zyyy 30A1-30FA=Kana 30FB-30FC=Zyyy",
   "30FD-30FF=Kana 3105-312F=Bopo 3131-318E=Hang 3190-319F=Zyyy 31A0-31BF=Bopo 31C0-31EF=Zyyy",
   "31F0-31FF=Kana 3200-321E=Hang 3220-325F=Zyyy 3260-327E=Hang 327F-32CF=Zyyy 32D0-32FE=Kana",
   "32FF=Zyyy 3300-3357=Kana 3358-33FF=Zyyy 3400-4DBF=Hani 4DC0-4DFF=Zyyy 4E00-9FFF=Hani",
   "A000-A4C6=Yiii A4D0-A4FF=Lisu A500-A62B=Vaii A640-A69F=Cyrl A6A0-A6F7=Bamu A700-A721=Zyyy",
   "A722-A787=Latn A788-A78A=Zyyy A78B-A7FF=Latn A800-A82C=Sylo A830-A839=Zyyy A840-A877=Phag",
   "A880-A8D9=Saur A8E0-A8FF=Deva A900-A92D=Kali A92E=Zyyy A92F=Kali A930-A95F=Rjng",
   "A960-A97C=Hang A980-A9CD=Java A9CF=Zyyy A9D0-A9DF=Java A9E0-A9FE=Mymr AA00-AA5F=Cham",
   "AA60-AA7F=Mymr AA80-AADF=Tavt AAE0-AAF6=Mtei AB01-AB2E=Ethi AB30-AB5A=Latn AB5B=Zyyy",
   "AB5C-AB64=Latn AB65=Grek AB66-AB69=Latn AB6A-AB6B=Zyyy AB70-ABBF=Cher ABC0-ABF9=Mtei",
   "AC00-D7FB=Hang F900-FAD9=Hani FB00-FB06=Latn FB13-FB17=Armn FB1D-FB4F=Hebr FB50-FD3D=Arab",
   "FD3E-FD3F=Zyyy FD40-FDFF=Arab FE00-FE0F=Zinh FE10-FE19=Zyyy FE20-FE2D=Zinh FE2E-FE2F=Cyrl",
   "FE30-FE6B=Zyyy FE70-FEFC=Arab FEFF-FF20=Zyyy FF21-FF3A=Latn FF3B-FF40=Zyyy FF41-FF5A=Latn",
   "FF5B-FF65=Zyyy FF66-FF6F=Kana FF70=Zyyy FF71-FF9D=Kana FF9E-FF9F=Zyyy FFA0-FFDC=Hang",
   "FFE0-FFFD=Zyyy 10000-100FA=Linb 10100-1013F=Zyyy 10140-1018E=Grek 10190-1019C=Zyyy",
   "101A0=Grek 101D0-101FC=Zyyy 101FD=Zinh 10280-1029C=Lyci 102A0-102D0=Cari 102E0=Zinh",
   "102E1-102FB=Zyyy 10300-1032F=Ital 10330-1034A=Goth 10350-1037A=Perm 10380-1039F=Ugar",
   "103A0-103D5=Xpeo 10400-1044F=Dsrt 10450-1047F=Shaw 10480-104A9=Osma 104B0-104FB=Osge",
   "10500-10527=Elba 10530-1056F=Aghb 10570-105BC=Vith 105C0-105F3=Todr 10600-10767=Lina",
   "10780-107BA=Latn 10800-1083F=Cprt 10840-1085F=Armi 10860-1087F=Palm 10880-108AF=Nbat",
   "108E0-108FF=Hatr 10900-1091F=Phnx 10920-1093F=Lydi 10980-1099F=Mero 109A0-109FF=Merc",
   "10A00-10A58=Khar 10A60-10A7F=Sarb 10A80-10A9F=Narb 10AC0-10AF6=Mani 10B00-10B3F=Avst",
   "10B40-10B5F=Prti 10B60-10B7F=Phli 10B80-10BAF=Phlp 10C00-10C48=Orkh 10C80-10CFF=Hung",
   "10D00-10D39=Rohg 10D40-10D8F=Gara 10E60-10E7E=Arab 10E80-10EB1=Yezi 10EC2-10EFF=Arab",
   "10F00-10F27=Sogo 10F30-10F59=Sogd 10F70-10F89=Ougr 10FB0-10FCB=Chrs 10FE0-10FF6=Elym",
   "11000-1107F=Brah 11080-110CD=Kthi 110D0-110F9=Sora 11100-11147=Cakm 11150-11176=Mahj",
   "11180-111DF=Shrd 111E1-111F4=Sinh 11200-11241=Khoj 11280-112A9=Mult 112B0-112F9=Sind",
   "11300-11339=Gran 1133B=Zinh 1133C-11374=Gran 11380-113E2=Tutg 11400-11461=Newa",
   "11480-114D9=Tirh 11580-115DD=Sidd 11600-11659=Modi 11660-1166C=Mong 11680-116C9=Takr",
   "116D0-116E3=Mymr 11700-11746=Ahom 11800-1183B=Dogr 118A0-118FF=Wara 11900-11959=Diak",
   "119A0-119E4=Nand 11A00-11A47=Zanb 11A50-11AA2=Soyo 11AB0-11ABF=Cans 11AC0-11AF8=Pauc",
   "11B00-11B09=Deva 11BC0-11BF9=Sunu 11C00-11C6C=Bhks 11C70-11CB6=Marc 11D00-11D59=Gonm",
   "11D60-11DA9=Gong 11EE0-11EF8=Maka 11F00-11F5A=Kawi 11FB0=Lisu 11FC0-11FFF=Taml",
   "12000-12543=Xsux 12F90-12FF2=Cpmn 13000-143FA=Egyp 14400-14646=Hluw 16100-16139=Gukh",
   "16800-16A38=Bamu 16A40-16A6F=Mroo 16A70-16AC9=Tnsa 16AD0-16AF5=Bass 16B00-16B8F=Hmng",
   "16D40-16D79=Krai 16E40-16E9A=Medf 16F00-16F9F=Plrd 16FE0=Tang 16FE1=Nshu 16FE2-16FE3=Hani",
   "16FE4=Kits 16FF0-16FF1=Hani 17000-18AFF=Tang 18B00-18CFF=Kits 18D00-18D08=Tang",
   "1AFF0-1B000=Kana 1B001-1B11F=Hira 1B120-1B122=Kana 1B132-1B152=Hira 1B155-1B167=Kana",
   "1B170-1B2FB=Nshu 1BC00-1BC9F=Dupl 1BCA0-1CEB3=Zyyy 1CF00-1CF46=Zinh 1CF50-1D166=Zyyy",
   "1D167-1D169=Zinh 1D16A-1D17A=Zyyy 1D17B-1D182=Zinh 1D183-1D184=Zyyy 1D185-1D18B=Zinh",
   "1D18C-1D1A9=Zyyy 1D1AA-1D1AD=Zinh 1D1AE-1D1EA=Zyyy 1D200-1D245=Grek 1D2C0-1D7FF=Zyyy",
   "1D800-1DAAF=Sgnw 1DF00-1DF2A=Latn 1E000-1E02A=Glag 1E030-1E08F=Cyrl 1E100-1E14F=Hmnp",
   "1E290-1E2AE=Toto 1E2C0-1E2FF=Wcho 1E4D0-1E4F9=Nagm 1E5D0-1E5FF=Onao 1E7E0-1E7FE=Ethi",
   "1E800-1E8D6=Mend 1E900-1E95F=Adlm 1EC71-1ED3D=Zyyy 1EE00-1EEF1=Arab 1F000-1F1FF=Zyyy",
   "1F200=Hira 1F201-1FBF9=Zyyy 20000-323AF=Hani E0001-E007F=Zyyy E0100-E01EF=Zinh"]

def sharedRuns : List Run := List.map Run.ofField <| Text.entries
  ["B7=Avst,Cari,Copt,Dupl,Elba,Geor,Glag,Gong,Goth,Grek,Hani,Latn,Lydi,Mahj,Perm,Shaw",
   "2BC=Beng,Cyrl,Deva,Latn,Lisu,Thai,Toto 2C7=Bopo,Latn 2C9-2CB=Bopo,Latn 2CD=Latn,Lisu",
   "2D7=Latn,Thai 2D9=Bopo,Latn 300=Cher,Copt,Cyrl,Grek,Latn,Perm,Sunu,Tale",
   "301=Cher,Cyrl,Grek,Latn,Osge,Sunu,Tale,Todr 302=Cher,Cyrl,Latn,Tfng",
   "303=Glag,Latn,Sunu,Syrc,Thai 304=Aghb,Cher,Copt,Cyrl,Goth,Grek,Latn,Osge,Syrc,Tfng,Todr",
   "305=Copt,Elba,Glag,Goth,Kana,Latn 306=Cyrl,Grek,Latn,Perm",
   "307=Copt,Dupl,Hebr,Latn,Perm,Syrc,Tale,Tfng,Todr",
   "308=Armn,Cyrl,Dupl,Goth,Grek,Hebr,Latn,Perm,Syrc,Tale 309=Latn,Tfng 30A=Dupl,Latn,Syrc",
   "30B=Cher,Cyrl,Latn,Osge 30C=Cher,Latn,Tale 30D=Latn,Sunu 30E=Ethi,Latn 310=Latn,Sunu",
   "311=Cyrl,Latn,Todr 313=Grek,Latn,Perm,Todr 320=Latn,Syrc 323=Cher,Dupl,Kana,Latn,Syrc",
   "324=Cher,Dupl,Latn,Syrc 325=Latn,Syrc 32D=Latn,Sunu,Syrc 32E=Latn,Syrc 330=Cher,Latn,Syrc",
   "331=Aghb,Cher,Goth,Latn,Sunu,Thai 342=Grek 345=Grek 358=Latn,Osge 35E=Aghb,Latn,Todr",
   "363-36F=Latn 374-375=Copt,Grek 483=Cyrl,Perm 484=Cyrl,Glag 485-486=Cyrl,Latn 487=Cyrl,Glag",
   "589=Armn,Geor,Glag 60C=Arab,Gara,Nkoo,Rohg,Syrc,Thaa,Yezi",
   "61B=Arab,Gara,Nkoo,Rohg,Syrc,Thaa,Yezi 61C=Arab,Syrc,Thaa",
   "61F=Adlm,Arab,Gara,Nkoo,Rohg,Syrc,Thaa,Yezi",
   "640=Adlm,Arab,Mand,Mani,Ougr,Phlp,Rohg,Sogd,Syrc 64B-655=Arab,Syrc 660-669=Arab,Thaa,Yezi",
   "670=Arab,Syrc 6D4=Arab,Rohg",
   "951=Beng,Deva,Gran,Gujr,Guru,Knda,Latn,Mlym,Orya,Shrd,Taml,Telu,Tirh",
   "952=Beng,Deva,Gran,Gujr,Guru,Knda,Latn,Mlym,Orya,Taml,Telu,Tirh",
   "964=Beng,Deva,Dogr,Gong,Gonm,Gran,Gujr,Guru,Knda,Mahj",
   "964=Mlym,Nand,Onao,Orya,Sind,Sinh,Sylo,Takr,Taml,Telu,Tirh",
   "965=Beng,Deva,Dogr,Gong,Gonm,Gran,Gujr,Gukh,Guru,Knda,Limb",
   "965=Mahj,Mlym,Nand,Onao,Orya,Sind,Sinh,Sylo,Takr,Taml,Telu,Tirh 966-96F=Deva,Dogr,Kthi,Mahj",
   "9E6-9EF=Beng,Cakm,Sylo A66-A6F=Guru,Mult AE6-AEF=Gujr,Khoj BE6-BF3=Gran,Taml",
   "CE6-CEF=Knda,Nand,Tutg 1040-1049=Cakm,Mymr,Tale 10FB=Geor,Glag,Latn 16EB-16ED=Runr",
   "1735-1736=Buhd,Hano,Tagb,Tglg 1802-1803=Mong,Phag 1805=Mong,Phag 1CD0=Beng,Deva,Gran,Knda",
   "1CD1=Deva 1CD2=Beng,Deva,Gran,Knda 1CD3=Deva,Gran,Knda 1CD4=Deva 1CD5-1CD6=Beng,Deva",
   "1CD7=Deva,Shrd 1CD8=Beng,Deva 1CD9=Deva,Shrd 1CDA=Deva,Knda,Mlym,Orya,Taml,Telu 1CDB=Deva",
   "1CDC-1CDD=Deva,Shrd 1CDE-1CDF=Deva 1CE0=Deva,Shrd 1CE1=Beng,Deva 1CE2-1CE8=Deva",
   "1CE9=Deva,Nand 1CEA=Beng,Deva 1CEB-1CEC=Deva 1CED=Beng,Deva 1CEE-1CF1=Deva",
   "1CF2=Beng,Deva,Gran,Knda,Mlym,Nand,Orya,Sinh,Telu,Tirh,Tutg 1CF3=Deva,Gran",
   "1CF4=Deva,Gran,Knda,Tutg 1CF5-1CF6=Beng,Deva 1CF7=Beng 1CF8-1CF9=Deva,Gran 1CFA=Nand",
   "1DC0-1DC1=Grek 1DF8=Cyrl,Latn,Syrc 1DFA=Syrc 202F=Latn,Mong,Phag 204F=Adlm,Arab",
   "205A=Cari,Geor,Glag,Hung,Lyci,Orkh 205D=Cari,Grek,Hung,Mero 20F0=Deva,Gran,Latn",
   "2E17=Copt,Latn 2E30=Avst,Orkh 2E31=Avst,Cari,Geor,Hung,Kthi,Lydi,Samr 2E3C=Dupl",
   "2E41=Adlm,Arab,Hung 2E43=Cyrl,Glag 2FF0-2FFF=Hani,Tang",
   "3001=Bopo,Hang,Hani,Hira,Kana,Mong,Yiii 3002=Bopo,Hang,Hani,Hira,Kana,Mong,Phag,Yiii",
   "3003=Bopo,Hang,Hani,Hira,Kana 3006=Hani 3008-3009=Bopo,Hang,Hani,Hira,Kana,Mong,Tibt,Yiii",
   "300A-300B=Bopo,Hang,Hani,Hira,Kana,Lisu,Mong,Tibt,Yiii",
   "300C-3011=Bopo,Hang,Hani,Hira,Kana,Yiii 3013=Bopo,Hang,Hani,Hira,Kana",
   "3014-301B=Bopo,Hang,Hani,Hira,Kana,Yiii 301C-301F=Bopo,Hang,Hani,Hira,Kana",
   "302A-302D=Bopo,Hani 3030=Bopo,Hang,Hani,Hira,Kana 3031-3035=Hira,Kana",
   "3037=Bopo,Hang,Hani,Hira,Kana 303C-303D=Hani,Hira,Kana 303E-303F=Hani 3099-309C=Hira,Kana",
   "30A0=Hira,Kana 30FB=Bopo,Hang,Hani,Hira,Kana,Yiii 30FC=Hira,Kana 3190-319F=Hani",
   "31C0-31E5=Hani 31EF=Hani,Tang 3220-3247=Hani 3280-32B0=Hani 32C0-32CB=Hani 32FF=Hani",
   "3358-3370=Hani 337B-337F=Hani 33E0-33FE=Hani A66F=Cyrl,Glag A700-A707=Hani,Latn",
   "A830-A832=Deva,Dogr,Gujr,Guru,Khoj,Knda,Kthi,Mahj,Mlym,Modi,Nand,Shrd,Sind,Takr,Tirh,Tutg",
   "A833-A835=Deva,Dogr,Gujr,Guru,Khoj,Knda,Kthi,Mahj,Modi,Nand,Shrd,Sind,Takr,Tirh,Tutg",
   "A836-A837=Deva,Dogr,Gujr,Guru,Khoj,Kthi,Mahj,Modi,Sind,Takr,Tirh",
   "A838=Deva,Dogr,Gujr,Guru,Khoj,Kthi,Mahj,Modi,Shrd,Sind,Takr,Tirh",
   "A839=Deva,Dogr,Gujr,Guru,Khoj,Kthi,Mahj,Modi,Sind,Takr,Tirh A8F1=Beng,Deva,Tutg",
   "A8F3=Deva,Taml A92E=Kali,Latn,Mymr A9CF=Bugi,Java FD3E-FD3F=Arab,Nkoo FDF2=Arab,Thaa",
   "FDFD=Arab,Thaa FE45-FE46=Bopo,Hang,Hani,Hira,Kana FF61-FF65=Bopo,Hang,Hani,Hira,Kana,Yiii",
   "FF70=Hira,Kana FF9E-FF9F=Hira,Kana 10100-10101=Cpmn,Cprt,Linb 10102=Cprt,Linb",
   "10107-10133=Cprt,Lina,Linb 10137-1013F=Cprt,Linb 102E0-102FB=Arab,Copt 10AF2=Mani,Ougr",
   "11301=Gran,Taml 11303=Gran,Taml 1133B-1133C=Gran,Taml 11FD0-11FD1=Gran,Taml 11FD3=Gran,Taml",
   "1BCA0-1BCA3=Dupl 1D360-1D371=Hani 1F250-1F251=Hani"]

def code? (name : String) : Option String :=
  (titles.find? (·.names.contains name)).map (·.code)

def rangesIn (runs : List Run) (code : String) : Text.CharSet :=
  (runs.filter (·.codes.contains code)).map (·.range)

def chars (code : String) : Text.CharSet := rangesIn runs code

def sharedChars (code : String) : Text.CharSet :=
  ((chars code).diff (sharedRuns.map (·.range))).union (rangesIn sharedRuns code)

end Script

end GestureGraph.Pattern
