import RecordRules.Unicode.Runs

/-!
# Scripts

The script of every code point, by its four-letter code, as runs of code
points from zero on.
-/

namespace RecordRules.Unicode

def scriptText : String :=
  "Zyyy65Latn26Zyyy6Latn26Zyyy47LatnZyyy15LatnZyyy5Latn23ZyyyLatn31ZyyyLatn449Zyyy39Latn5Zyyy5B" ++
  "opo2Zyyy20Zinh112Grek4ZyyyGrek3Zzzz2Grek4ZyyyGrekZzzz4GrekZyyyGrekZyyyGrek3ZzzzGrekZzzzGrek2" ++
  "0ZzzzGrek63Copt14Grek16Cyrl133Zinh2Cyrl169ZzzzArmn38Zzzz2Armn50Zzzz2Armn3ZzzzHebr55Zzzz8Hebr" ++
  "27Zzzz4Hebr6Zzzz11Arab5ZyyyArab6ZyyyArab14ZyyyArab3ZyyyArab32ZyyyArab10Zinh11Arab26ZinhArab1" ++
  "08ZyyyArab34Syrc14ZzzzSyrc60Zzzz2Syrc3Arab48Thaa50Zzzz14Nkoo59Zzzz2Nkoo3Samr46Zzzz2Samr15Zzz" ++
  "zMand28Zzzz2MandZzzzSyrc11Zzzz5Arab31ZzzzArab2Zzzz6Arab74ZyyyArab29Deva81Zinh4Deva15Zyyy2Dev" ++
  "a26Beng4ZzzzBeng8Zzzz2Beng2Zzzz2Beng22ZzzzBeng7ZzzzBengZzzz3Beng4Zzzz2Beng9Zzzz2Beng2Zzzz2Be" ++
  "ng4Zzzz8BengZzzz4Beng2ZzzzBeng5Zzzz2Beng25Zzzz2Guru3ZzzzGuru6Zzzz4Guru2Zzzz2Guru22ZzzzGuru7Z" ++
  "zzzGuru2ZzzzGuru2ZzzzGuru2Zzzz2GuruZzzzGuru5Zzzz4Guru2Zzzz2Guru3Zzzz3GuruZzzz7Guru4ZzzzGuruZ" ++
  "zzz7Guru17Zzzz10Gujr3ZzzzGujr9ZzzzGujr3ZzzzGujr22ZzzzGujr7ZzzzGujr2ZzzzGujr5Zzzz2Gujr10ZzzzG" ++
  "ujr3ZzzzGujr3Zzzz2GujrZzzz15Gujr4Zzzz2Gujr12Zzzz7Gujr7ZzzzOrya3ZzzzOrya8Zzzz2Orya2Zzzz2Orya2" ++
  "2ZzzzOrya7ZzzzOrya2ZzzzOrya5Zzzz2Orya9Zzzz2Orya2Zzzz2Orya3Zzzz7Orya3Zzzz4Orya2ZzzzOrya5Zzzz2" ++
  "Orya18Zzzz10Taml2ZzzzTaml6Zzzz3Taml3ZzzzTaml4Zzzz3Taml2ZzzzTamlZzzzTaml2Zzzz3Taml2Zzzz3Taml3" ++
  "Zzzz3Taml12Zzzz4Taml5Zzzz3Taml3ZzzzTaml4Zzzz2TamlZzzz6TamlZzzz14Taml21Zzzz5Telu13ZzzzTelu3Zz" ++
  "zzTelu23ZzzzTelu16Zzzz2Telu9ZzzzTelu3ZzzzTelu4Zzzz7Telu2ZzzzTelu3Zzzz2TeluZzzz2Telu4Zzzz2Tel" ++
  "u10Zzzz7Telu9Knda13ZzzzKnda3ZzzzKnda23ZzzzKnda10ZzzzKnda5Zzzz2Knda9ZzzzKnda3ZzzzKnda4Zzzz7Kn" ++
  "da2Zzzz6Knda2ZzzzKnda4Zzzz2Knda10ZzzzKnda3Zzzz12Mlym13ZzzzMlym3ZzzzMlym51ZzzzMlym3ZzzzMlym6Z" ++
  "zzz4Mlym16Zzzz2Mlym26ZzzzSinh3ZzzzSinh18Zzzz3Sinh24ZzzzSinh9ZzzzSinhZzzz2Sinh7Zzzz3SinhZzzz4" ++
  "Sinh6ZzzzSinhZzzzSinh8Zzzz6Sinh10Zzzz2Sinh3Zzzz12Thai58Zzzz4ZyyyThai28Zzzz37Laoo2ZzzzLaooZzz" ++
  "zLaoo5ZzzzLaoo24ZzzzLaooZzzzLaoo23Zzzz2Laoo5ZzzzLaooZzzzLaoo7ZzzzLaoo10Zzzz2Laoo4Zzzz32Tibt7" ++
  "2ZzzzTibt36Zzzz4Tibt39ZzzzTibt36ZzzzTibt15ZzzzTibt7Zyyy4Tibt2Zzzz37Mymr160Geor38ZzzzGeorZzzz" ++
  "5GeorZzzz2Geor43ZyyyGeor4Hang256Ethi73ZzzzEthi4Zzzz2Ethi7ZzzzEthiZzzzEthi4Zzzz2Ethi41ZzzzEth" ++
  "i4Zzzz2Ethi33ZzzzEthi4Zzzz2Ethi7ZzzzEthiZzzzEthi4Zzzz2Ethi15ZzzzEthi57ZzzzEthi4Zzzz2Ethi67Zz" ++
  "zz2Ethi32Zzzz3Ethi26Zzzz6Cher86Zzzz2Cher6Zzzz2Cans640Ogam29Zzzz3Runr75Zyyy3Runr11Zzzz7Tglg22" ++
  "Zzzz9TglgHano21Zyyy2Zzzz9Buhd20Zzzz12Tagb13ZzzzTagb3ZzzzTagb2Zzzz12Khmr94Zzzz2Khmr10Zzzz6Khm" ++
  "r10Zzzz6Mong2Zyyy2MongZyyyMong20Zzzz6Mong89Zzzz7Mong43Zzzz5Cans70Zzzz10Limb31ZzzzLimb12Zzzz4" ++
  "Limb12Zzzz4LimbZzzz3Limb12Tale30Zzzz2Tale5Zzzz11Talu44Zzzz4Talu26Zzzz6Talu11Zzzz3Talu2Khmr32" ++
  "Bugi28Zzzz2Bugi2Lana63ZzzzLana29Zzzz2Lana11Zzzz6Lana10Zzzz6Lana14Zzzz2Zinh31Zzzz49Bali77Zzzz" ++
  "3Bali47ZzzzSund64Batk52Zzzz8Batk4Lepc56Zzzz3Lepc15Zzzz3Lepc3Olck48Cyrl9Zzzz7Geor43Zzzz2Geor3" ++
  "Sund8Zzzz8Zinh3ZyyyZinh13ZyyyZinh7Zyyy4ZinhZyyy6ZinhZyyy3Zinh2ZyyyZzzz5Latn38Grek5CyrlLatn49" ++
  "Grek5Latn4Grek5Latn13CyrlLatn70GrekZinh64Latn256Grek22Zzzz2Grek6Zzzz2Grek38Zzzz2Grek6Zzzz2Gr" ++
  "ek8ZzzzGrekZzzzGrekZzzzGrekZzzzGrek31Zzzz2Grek53ZzzzGrek15ZzzzGrek14Zzzz2Grek6ZzzzGrek19Zzzz" ++
  "2Grek3ZzzzGrek9ZzzzZyyy12Zinh2Zyyy87ZzzzZyyy11LatnZzzz2Zyyy11LatnZyyy15ZzzzLatn13Zzzz3Zyyy33" ++
  "Zzzz15Zinh33Zzzz15Zyyy38GrekZyyy3Latn2Zyyy6LatnZyyy27LatnZyyy17Latn41Zyyy3Zzzz4Zyyy663Zzzz25" ++
  "Zyyy11Zzzz21Zyyy928Brai256Zyyy628Zzzz2Zyyy32ZzzzZyyy105Glag96Latn32Copt116Zzzz5Copt7Geor38Zz" ++
  "zzGeorZzzz5GeorZzzz2Tfng56Zzzz7Tfng2Zzzz14TfngEthi23Zzzz9Ethi7ZzzzEthi7ZzzzEthi7ZzzzEthi7Zzz" ++
  "zEthi7ZzzzEthi7ZzzzEthi7ZzzzEthi7ZzzzCyrl32Zyyy94Zzzz34Hani26ZzzzHani89Zzzz12Hani214Zzzz26Zy" ++
  "yy12Zzzz4Zyyy5HaniZyyyHaniZyyy25Hani9Zinh4Hang2Zyyy8Hani4Zyyy4ZzzzHira86Zzzz2Zinh2Zyyy2Hira3" ++
  "ZyyyKana90Zyyy2Kana3Zzzz5Bopo43ZzzzHang94ZzzzZyyy16Bopo32Zyyy36Zzzz12Kana16Hang31ZzzzZyyy64H" ++
  "ang31Zyyy81Kana47ZyyyKana88Zyyy168Hani6592Zyyy64Hani20992Yiii1165Zzzz3Yiii55Zzzz9Lisu48Vaii3" ++
  "00Zzzz20Cyrl96Bamu88Zzzz8Zyyy34Latn102Zyyy3Latn64Zzzz5Latn2ZzzzLatnZzzzLatn5Zzzz24Latn14Sylo" ++
  "45Zzzz3Zyyy10Zzzz6Phag56Zzzz8Saur70Zzzz8Saur12Zzzz6Deva32Kali46ZyyyKaliRjng36Zzzz11RjngHang2" ++
  "9Zzzz3Java78ZzzzZyyyJava10Zzzz4Java2Mymr31ZzzzCham55Zzzz9Cham14Zzzz2Cham10Zzzz2Cham4Mymr32Ta" ++
  "vt67Zzzz24Tavt5Mtei23Zzzz10Ethi6Zzzz2Ethi6Zzzz2Ethi6Zzzz9Ethi7ZzzzEthi7ZzzzLatn43ZyyyLatn9Gr" ++
  "ekLatn4Zyyy2Zzzz4Cher80Mtei46Zzzz2Mtei10Zzzz6Hang11172Zzzz12Hang23Zzzz4Hang49Zzzz8452Hani366" ++
  "Zzzz2Hani106Zzzz38Latn7Zzzz12Armn5Zzzz5Hebr26ZzzzHebr5ZzzzHebrZzzzHebr2ZzzzHebr2ZzzzHebr10Ar" ++
  "ab115Zzzz16Arab363Zyyy2Arab80Zzzz2Arab54Zzzz7ArabZzzz32Arab16Zinh16Zyyy10Zzzz6Zinh14Cyrl2Zyy" ++
  "y35ZzzzZyyy19ZzzzZyyy4Zzzz4Arab5ZzzzArab135Zzzz2ZyyyZzzzZyyy32Latn26Zyyy6Latn26Zyyy11Kana10Z" ++
  "yyyKana45Zyyy2Hang31Zzzz3Hang6Zzzz2Hang6Zzzz2Hang6Zzzz2Hang3Zzzz3Zyyy7ZzzzZyyy7Zzzz10Zyyy5Zz" ++
  "zz2Linb12ZzzzLinb26ZzzzLinb19ZzzzLinb2ZzzzLinb15Zzzz2Linb14Zzzz34Linb123Zzzz5Zyyy3Zzzz4Zyyy4" ++
  "5Zzzz3Zyyy9Grek79ZzzzZyyy13Zzzz3GrekZzzz47Zyyy45ZinhZzzz130Lyci29Zzzz3Cari49Zzzz15ZinhZyyy27" ++
  "Zzzz4Ital36Zzzz9Ital3Goth27Zzzz5Perm43Zzzz5Ugar30ZzzzUgarXpeo36Zzzz4Xpeo14Zzzz42Dsrt80Shaw48" ++
  "Osma30Zzzz2Osma10Zzzz6Osge36Zzzz4Osge36Zzzz4Elba40Zzzz8Aghb52Zzzz11AghbVith11ZzzzVith15ZzzzV" ++
  "ith7ZzzzVith2ZzzzVith11ZzzzVith15ZzzzVith7ZzzzVith2Zzzz67Lina311Zzzz9Lina22Zzzz10Lina8Zzzz24" ++
  "Latn6ZzzzLatn42ZzzzLatn9Zzzz69Cprt6Zzzz2CprtZzzzCprt44ZzzzCprt2Zzzz3CprtZzzz2CprtArmi22ZzzzA" ++
  "rmi9Palm32Nbat31Zzzz8Nbat9Zzzz48Hatr19ZzzzHatr2Zzzz5Hatr5Phnx28Zzzz3PhnxLydi26Zzzz5LydiZzzz6" ++
  "4Mero32Merc24Zzzz4Merc20Zzzz2Merc46Khar4ZzzzKhar2Zzzz5Khar8ZzzzKhar3ZzzzKhar29Zzzz2Khar3Zzzz" ++
  "4Khar10Zzzz7Khar9Zzzz7Sarb32Narb32Zzzz32Mani39Zzzz4Mani12Zzzz9Avst54Zzzz3Avst7Prti22Zzzz2Prt" ++
  "i8Phli19Zzzz5Phli8Phlp18Zzzz7Phlp4Zzzz12Phlp7Zzzz80Orkh73Zzzz55Hung51Zzzz13Hung51Zzzz7Hung6R" ++
  "ohg40Zzzz8Rohg10Zzzz294Arab31ZzzzYezi42ZzzzYezi3Zzzz2Yezi2Zzzz75Arab3Sogo40Zzzz8Sogd42Zzzz22" ++
  "Ougr26Zzzz38Chrs28Zzzz20Elym23Zzzz9Brah78Zzzz4Brah36Zzzz9BrahKthi67Zzzz10KthiZzzz2Sora25Zzzz" ++
  "7Sora10Zzzz6Cakm53ZzzzCakm18Zzzz8Mahj39Zzzz9Shrd96ZzzzSinh20Zzzz11Khoj18ZzzzKhoj47Zzzz62Mult" ++
  "7ZzzzMultZzzzMult4ZzzzMult15ZzzzMult11Zzzz6Sind59Zzzz5Sind10Zzzz6Gran4ZzzzGran8Zzzz2Gran2Zzz" ++
  "z2Gran22ZzzzGran7ZzzzGran2ZzzzGran5ZzzzZinhGran9Zzzz2Gran2Zzzz2Gran3Zzzz2GranZzzz6GranZzzz5G" ++
  "ran7Zzzz2Gran7Zzzz3Gran5Zzzz139Newa92ZzzzNewa5Zzzz30Tirh72Zzzz8Tirh10Zzzz166Sidd54Zzzz2Sidd3" ++
  "8Zzzz34Modi69Zzzz11Modi10Zzzz6Mong13Zzzz19Takr58Zzzz6Takr10Zzzz54Ahom27Zzzz2Ahom15Zzzz4Ahom2" ++
  "3Zzzz185Dogr60Zzzz100Wara83Zzzz12WaraDiak7Zzzz2DiakZzzz2Diak8ZzzzDiak2ZzzzDiak30ZzzzDiak2Zzz" ++
  "z2Diak12Zzzz9Diak10Zzzz70Nand8Zzzz2Nand46Zzzz2Nand11Zzzz27Zanb72Zzzz8Soyo83Zzzz13Cans16Pauc5" ++
  "7Zzzz7Deva10Zzzz246Bhks9ZzzzBhks45ZzzzBhks14Zzzz10Bhks29Zzzz3Marc32Zzzz2Marc22ZzzzMarc14Zzzz" ++
  "73Gonm7ZzzzGonm2ZzzzGonm44Zzzz3GonmZzzzGonm2ZzzzGonm9Zzzz8Gonm10Zzzz6Gong6ZzzzGong2ZzzzGong3" ++
  "7ZzzzGong2ZzzzGong6Zzzz7Gong10Zzzz310Maka25Zzzz7Kawi17ZzzzKawi41Zzzz3Kawi28Zzzz86LisuZzzz15T" ++
  "aml50Zzzz13TamlXsux922Zzzz102Xsux111ZzzzXsux5Zzzz11Xsux196Zzzz2636Cpmn99Zzzz13Egyp1110Zzzz40" ++
  "10Hluw583Zzzz8633Bamu569Zzzz7Mroo31ZzzzMroo10Zzzz4Mroo2Tnsa79ZzzzTnsa10Zzzz6Bass30Zzzz2Bass6" ++
  "Zzzz10Hmng70Zzzz10Hmng10ZzzzHmng7ZzzzHmng21Zzzz5Hmng19Zzzz688Medf91Zzzz101Plrd75Zzzz4Plrd57Z" ++
  "zzz7Plrd17Zzzz64TangNshuHani2KitsZzzz11Hani2Zzzz14Tang6136Zzzz8Tang768Kits470Zzzz42Tang9Zzzz" ++
  "8935Kana4ZzzzKana7ZzzzKana2ZzzzKanaHira287Kana3Zzzz15HiraZzzz29Hira3Zzzz2KanaZzzz14Kana4Zzzz" ++
  "8Nshu396Zzzz2308Dupl107Zzzz5Dupl13Zzzz3Dupl9Zzzz7Dupl10Zzzz2Dupl4Zyyy4Zzzz4700Zinh46Zzzz2Zin" ++
  "h23Zzzz9Zyyy116Zzzz60Zyyy246Zzzz10Zyyy39Zzzz2Zyyy62Zinh3Zyyy17Zinh8Zyyy2Zinh7Zyyy30Zinh4Zyyy" ++
  "61Zzzz21Grek70Zzzz122Zyyy20Zzzz12Zyyy20Zzzz12Zyyy87Zzzz9Zyyy25Zzzz135Zyyy85ZzzzZyyy71ZzzzZyy" ++
  "y2Zzzz2ZyyyZzzz2Zyyy2Zzzz2Zyyy4ZzzzZyyy12ZzzzZyyyZzzzZyyy7ZzzzZyyy65ZzzzZyyy4Zzzz2Zyyy8ZzzzZ" ++
  "yyy7ZzzzZyyy28ZzzzZyyy4ZzzzZyyy5ZzzzZyyyZzzz3Zyyy7ZzzzZyyy340Zzzz2Zyyy292Zzzz2Zyyy50Sgnw652Z" ++
  "zzz15Sgnw5ZzzzSgnw15Zzzz1104Latn31Zzzz6Latn6Zzzz213Glag7ZzzzGlag17Zzzz2Glag7ZzzzGlag2ZzzzGla" ++
  "g5Zzzz5Cyrl62Zzzz33CyrlZzzz112Hmnp45Zzzz3Hmnp14Zzzz2Hmnp10Zzzz4Hmnp2Zzzz320Toto31Zzzz17Wcho5" ++
  "8Zzzz5WchoZzzz464Nagm42Zzzz742Ethi7ZzzzEthi4ZzzzEthi2ZzzzEthi15ZzzzMend197Zzzz2Mend16Zzzz41A" ++
  "dlm76Zzzz4Adlm10Zzzz4Adlm2Zzzz785Zyyy68Zzzz76Zyyy61Zzzz194Arab4ZzzzArab27ZzzzArab2ZzzzArabZz" ++
  "zz2ArabZzzzArab10ZzzzArab4ZzzzArabZzzzArabZzzz6ArabZzzz4ArabZzzzArabZzzzArabZzzzArab3ZzzzAra" ++
  "b2ZzzzArabZzzz2ArabZzzzArabZzzzArabZzzzArabZzzzArabZzzzArab2ZzzzArabZzzz2Arab4ZzzzArab7ZzzzA" ++
  "rab4ZzzzArab4ZzzzArabZzzzArab10ZzzzArab17Zzzz5Arab3ZzzzArab5ZzzzArab17Zzzz52Arab2Zzzz270Zyyy" ++
  "44Zzzz4Zyyy100Zzzz12Zyyy15Zzzz2Zyyy15ZzzzZyyy15ZzzzZyyy37Zzzz10Zyyy174Zzzz56Zyyy26HiraZyyy2Z" ++
  "zzz13Zyyy44Zzzz4Zyyy9Zzzz7Zyyy2Zzzz14Zyyy6Zzzz154Zyyy984Zzzz4Zyyy17Zzzz3Zyyy13Zzzz3Zyyy119Zz" ++
  "zz4Zyyy95Zzzz6Zyyy12Zzzz4ZyyyZzzz15Zyyy12Zzzz4Zyyy56Zzzz8Zyyy10Zzzz6Zyyy40Zzzz8Zyyy30Zzzz2Zy" ++
  "yy2Zzzz78Zyyy340Zzzz12Zyyy14Zzzz2Zyyy13Zzzz3Zyyy9Zzzz7Zyyy46ZzzzZyyy7Zzzz8Zyyy14Zzzz4Zyyy9Zz" ++
  "zz7Zyyy9Zzzz7Zyyy147ZzzzZyyy55Zzzz37Zyyy10Zzzz1030Hani42720Zzzz32Hani4154Zzzz6Hani222Zzzz2Ha" ++
  "ni5762Zzzz14Hani7473Zzzz3103Hani542Zzzz1506Hani4939Zzzz5Hani4192Zzzz711761ZyyyZzzz30Zyyy96Zz" ++
  "zz128Zinh240Zzzz196112"

def scriptRuns : List Run := decodeRuns 4 scriptText.toList

def script (c : Char) : String := (valueAt scriptRuns c.toNat).getD "Zzzz"

/-- The names of scripts, in small letters without separators, and their
codes. -/
def scriptNames : List (String × String) :=
  [("adlam", "Adlm"), ("adlm", "Adlm"), ("caucasianalbanian", "Aghb"), ("aghb", "Aghb"),
    ("ahom", "Ahom"), ("arabic", "Arab"), ("arab", "Arab"), ("imperialaramaic", "Armi"),
    ("armi", "Armi"), ("armenian", "Armn"), ("armn", "Armn"), ("avestan", "Avst"),
    ("avst", "Avst"), ("balinese", "Bali"), ("bali", "Bali"), ("bamum", "Bamu"),
    ("bamu", "Bamu"), ("bassavah", "Bass"), ("bass", "Bass"), ("batak", "Batk"),
    ("batk", "Batk"), ("bengali", "Beng"), ("beng", "Beng"), ("bhaiksuki", "Bhks"),
    ("bhks", "Bhks"), ("bopomofo", "Bopo"), ("bopo", "Bopo"), ("brahmi", "Brah"),
    ("brah", "Brah"), ("braille", "Brai"), ("brai", "Brai"), ("buginese", "Bugi"),
    ("bugi", "Bugi"), ("buhid", "Buhd"), ("buhd", "Buhd"), ("chakma", "Cakm"), ("cakm", "Cakm"),
    ("canadianaboriginal", "Cans"), ("cans", "Cans"), ("carian", "Cari"), ("cari", "Cari"),
    ("cham", "Cham"), ("cherokee", "Cher"), ("cher", "Cher"), ("chorasmian", "Chrs"),
    ("chrs", "Chrs"), ("coptic", "Copt"), ("qaac", "Copt"), ("copt", "Copt"),
    ("cyprominoan", "Cpmn"), ("cpmn", "Cpmn"), ("cypriot", "Cprt"), ("cprt", "Cprt"),
    ("cyrillic", "Cyrl"), ("cyrl", "Cyrl"), ("devanagari", "Deva"), ("deva", "Deva"),
    ("divesakuru", "Diak"), ("diak", "Diak"), ("dogra", "Dogr"), ("dogr", "Dogr"),
    ("deseret", "Dsrt"), ("dsrt", "Dsrt"), ("duployan", "Dupl"), ("dupl", "Dupl"),
    ("egyptianhieroglyphs", "Egyp"), ("egyp", "Egyp"), ("elbasan", "Elba"), ("elba", "Elba"),
    ("elymaic", "Elym"), ("elym", "Elym"), ("ethiopic", "Ethi"), ("ethi", "Ethi"),
    ("georgian", "Geor"), ("geor", "Geor"), ("glagolitic", "Glag"), ("glag", "Glag"),
    ("gunjalagondi", "Gong"), ("gong", "Gong"), ("masaramgondi", "Gonm"), ("gonm", "Gonm"),
    ("gothic", "Goth"), ("goth", "Goth"), ("grantha", "Gran"), ("gran", "Gran"),
    ("greek", "Grek"), ("grek", "Grek"), ("gujarati", "Gujr"), ("gujr", "Gujr"),
    ("gurmukhi", "Guru"), ("guru", "Guru"), ("hangul", "Hang"), ("hang", "Hang"),
    ("han", "Hani"), ("hani", "Hani"), ("hanunoo", "Hano"), ("hano", "Hano"), ("hatran", "Hatr"),
    ("hatr", "Hatr"), ("hebrew", "Hebr"), ("hebr", "Hebr"), ("hiragana", "Hira"),
    ("hira", "Hira"), ("anatolianhieroglyphs", "Hluw"), ("hluw", "Hluw"),
    ("pahawhhmong", "Hmng"), ("hmng", "Hmng"), ("nyiakengpuachuehmong", "Hmnp"),
    ("hmnp", "Hmnp"), ("oldhungarian", "Hung"), ("hung", "Hung"), ("olditalic", "Ital"),
    ("ital", "Ital"), ("javanese", "Java"), ("java", "Java"), ("kayahli", "Kali"),
    ("kali", "Kali"), ("katakana", "Kana"), ("kana", "Kana"), ("kawi", "Kawi"),
    ("kharoshthi", "Khar"), ("khar", "Khar"), ("khmer", "Khmr"), ("khmr", "Khmr"),
    ("khojki", "Khoj"), ("khoj", "Khoj"), ("khitansmallscript", "Kits"), ("kits", "Kits"),
    ("kannada", "Knda"), ("knda", "Knda"), ("kaithi", "Kthi"), ("kthi", "Kthi"),
    ("taitham", "Lana"), ("lana", "Lana"), ("lao", "Laoo"), ("laoo", "Laoo"), ("latin", "Latn"),
    ("latn", "Latn"), ("lepcha", "Lepc"), ("lepc", "Lepc"), ("limbu", "Limb"), ("limb", "Limb"),
    ("lineara", "Lina"), ("lina", "Lina"), ("linearb", "Linb"), ("linb", "Linb"),
    ("lisu", "Lisu"), ("lycian", "Lyci"), ("lyci", "Lyci"), ("lydian", "Lydi"), ("lydi", "Lydi"),
    ("mahajani", "Mahj"), ("mahj", "Mahj"), ("makasar", "Maka"), ("maka", "Maka"),
    ("mandaic", "Mand"), ("mand", "Mand"), ("manichaean", "Mani"), ("mani", "Mani"),
    ("marchen", "Marc"), ("marc", "Marc"), ("medefaidrin", "Medf"), ("medf", "Medf"),
    ("mendekikakui", "Mend"), ("mend", "Mend"), ("meroiticcursive", "Merc"), ("merc", "Merc"),
    ("meroitichieroglyphs", "Mero"), ("mero", "Mero"), ("malayalam", "Mlym"), ("mlym", "Mlym"),
    ("modi", "Modi"), ("mongolian", "Mong"), ("mong", "Mong"), ("mro", "Mroo"), ("mroo", "Mroo"),
    ("meeteimayek", "Mtei"), ("mtei", "Mtei"), ("multani", "Mult"), ("mult", "Mult"),
    ("myanmar", "Mymr"), ("mymr", "Mymr"), ("nagmundari", "Nagm"), ("nagm", "Nagm"),
    ("nandinagari", "Nand"), ("nand", "Nand"), ("oldnortharabian", "Narb"), ("narb", "Narb"),
    ("nabataean", "Nbat"), ("nbat", "Nbat"), ("newa", "Newa"), ("nko", "Nkoo"), ("nkoo", "Nkoo"),
    ("nushu", "Nshu"), ("nshu", "Nshu"), ("ogham", "Ogam"), ("ogam", "Ogam"),
    ("olchiki", "Olck"), ("olck", "Olck"), ("oldturkic", "Orkh"), ("orkh", "Orkh"),
    ("oriya", "Orya"), ("orya", "Orya"), ("osage", "Osge"), ("osge", "Osge"),
    ("osmanya", "Osma"), ("osma", "Osma"), ("olduyghur", "Ougr"), ("ougr", "Ougr"),
    ("palmyrene", "Palm"), ("palm", "Palm"), ("paucinhau", "Pauc"), ("pauc", "Pauc"),
    ("oldpermic", "Perm"), ("perm", "Perm"), ("phagspa", "Phag"), ("phag", "Phag"),
    ("inscriptionalpahlavi", "Phli"), ("phli", "Phli"), ("psalterpahlavi", "Phlp"),
    ("phlp", "Phlp"), ("phoenician", "Phnx"), ("phnx", "Phnx"), ("miao", "Plrd"),
    ("plrd", "Plrd"), ("inscriptionalparthian", "Prti"), ("prti", "Prti"), ("rejang", "Rjng"),
    ("rjng", "Rjng"), ("hanifirohingya", "Rohg"), ("rohg", "Rohg"), ("runic", "Runr"),
    ("runr", "Runr"), ("samaritan", "Samr"), ("samr", "Samr"), ("oldsoutharabian", "Sarb"),
    ("sarb", "Sarb"), ("saurashtra", "Saur"), ("saur", "Saur"), ("signwriting", "Sgnw"),
    ("sgnw", "Sgnw"), ("shavian", "Shaw"), ("shaw", "Shaw"), ("sharada", "Shrd"),
    ("shrd", "Shrd"), ("siddham", "Sidd"), ("sidd", "Sidd"), ("khudawadi", "Sind"),
    ("sind", "Sind"), ("sinhala", "Sinh"), ("sinh", "Sinh"), ("sogdian", "Sogd"),
    ("sogd", "Sogd"), ("oldsogdian", "Sogo"), ("sogo", "Sogo"), ("sorasompeng", "Sora"),
    ("sora", "Sora"), ("soyombo", "Soyo"), ("soyo", "Soyo"), ("sundanese", "Sund"),
    ("sund", "Sund"), ("sylotinagri", "Sylo"), ("sylo", "Sylo"), ("syriac", "Syrc"),
    ("syrc", "Syrc"), ("tagbanwa", "Tagb"), ("tagb", "Tagb"), ("takri", "Takr"),
    ("takr", "Takr"), ("taile", "Tale"), ("tale", "Tale"), ("newtailue", "Talu"),
    ("talu", "Talu"), ("tamil", "Taml"), ("taml", "Taml"), ("tangut", "Tang"), ("tang", "Tang"),
    ("taiviet", "Tavt"), ("tavt", "Tavt"), ("telugu", "Telu"), ("telu", "Telu"),
    ("tifinagh", "Tfng"), ("tfng", "Tfng"), ("tagalog", "Tglg"), ("tglg", "Tglg"),
    ("thaana", "Thaa"), ("thaa", "Thaa"), ("thai", "Thai"), ("tibetan", "Tibt"),
    ("tibt", "Tibt"), ("tirhuta", "Tirh"), ("tirh", "Tirh"), ("tangsa", "Tnsa"),
    ("tnsa", "Tnsa"), ("toto", "Toto"), ("ugaritic", "Ugar"), ("ugar", "Ugar"), ("vai", "Vaii"),
    ("vaii", "Vaii"), ("vithkuqi", "Vith"), ("vith", "Vith"), ("warangciti", "Wara"),
    ("wara", "Wara"), ("wancho", "Wcho"), ("wcho", "Wcho"), ("oldpersian", "Xpeo"),
    ("xpeo", "Xpeo"), ("cuneiform", "Xsux"), ("xsux", "Xsux"), ("yezidi", "Yezi"),
    ("yezi", "Yezi"), ("yi", "Yiii"), ("yiii", "Yiii"), ("zanabazarsquare", "Zanb"),
    ("zanb", "Zanb"), ("inherited", "Zinh"), ("qaai", "Zinh"), ("zinh", "Zinh"),
    ("common", "Zyyy"), ("zyyy", "Zyyy"), ("unknown", "Zzzz"), ("zzzz", "Zzzz")]

end RecordRules.Unicode
