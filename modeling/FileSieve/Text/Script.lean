import FileSieve.Text.Category

/-!
# Scripts

The script of every code point, and the scripts that a code point is used with where they differ
from its own script (the property `Script_Extensions`).  Both are run-length tables; the label of
an extension run joins several scripts by `+`, and `-` means that the own script is the whole
answer.
-/

namespace FileSieve.Text

/-- The scripts of all code points in order. -/
def scriptTable : String :=
  String.join
  ["65Zyyy26Latn6Zyyy26Latn47Zyyy1Latn15Zyyy1Latn5Zyyy23Latn1Zyyy31Latn1Zyyy449Latn39Zyyy5Latn",
   "5Zyyy2Bopo20Zyyy112Zinh4Grek1Zyyy3Grek2Zzzz4Grek1Zyyy1Grek4Zzzz1Grek1Zyyy1Grek1Zyyy3Grek",
   "1Zzzz1Grek1Zzzz20Grek1Zzzz63Grek14Copt16Grek133Cyrl2Zinh169Cyrl1Zzzz38Armn2Zzzz50Armn2Zzzz",
   "3Armn1Zzzz55Hebr8Zzzz27Hebr4Zzzz6Hebr11Zzzz5Arab1Zyyy6Arab1Zyyy14Arab1Zyyy3Arab1Zyyy32Arab",
   "1Zyyy10Arab11Zinh26Arab1Zinh108Arab1Zyyy34Arab14Syrc1Zzzz60Syrc2Zzzz3Syrc48Arab50Thaa14Zzzz",
   "59Nkoo2Zzzz3Nkoo46Samr2Zzzz15Samr1Zzzz28Mand2Zzzz1Mand1Zzzz11Syrc5Zzzz34Arab5Zzzz75Arab1Zyyy",
   "29Arab81Deva4Zinh15Deva2Zyyy26Deva4Beng1Zzzz8Beng2Zzzz2Beng2Zzzz22Beng1Zzzz7Beng1Zzzz1Beng",
   "3Zzzz4Beng2Zzzz9Beng2Zzzz2Beng2Zzzz4Beng8Zzzz1Beng4Zzzz2Beng1Zzzz5Beng2Zzzz25Beng2Zzzz3Guru",
   "1Zzzz6Guru4Zzzz2Guru2Zzzz22Guru1Zzzz7Guru1Zzzz2Guru1Zzzz2Guru1Zzzz2Guru2Zzzz1Guru1Zzzz5Guru",
   "4Zzzz2Guru2Zzzz3Guru3Zzzz1Guru7Zzzz4Guru1Zzzz1Guru7Zzzz17Guru10Zzzz3Gujr1Zzzz9Gujr1Zzzz3Gujr",
   "1Zzzz22Gujr1Zzzz7Gujr1Zzzz2Gujr1Zzzz5Gujr2Zzzz10Gujr1Zzzz3Gujr1Zzzz3Gujr2Zzzz1Gujr15Zzzz",
   "4Gujr2Zzzz12Gujr7Zzzz7Gujr1Zzzz3Orya1Zzzz8Orya2Zzzz2Orya2Zzzz22Orya1Zzzz7Orya1Zzzz2Orya1Zzzz",
   "5Orya2Zzzz9Orya2Zzzz2Orya2Zzzz3Orya7Zzzz3Orya4Zzzz2Orya1Zzzz5Orya2Zzzz18Orya10Zzzz2Taml1Zzzz",
   "6Taml3Zzzz3Taml1Zzzz4Taml3Zzzz2Taml1Zzzz1Taml1Zzzz2Taml3Zzzz2Taml3Zzzz3Taml3Zzzz12Taml4Zzzz",
   "5Taml3Zzzz3Taml1Zzzz4Taml2Zzzz1Taml6Zzzz1Taml14Zzzz21Taml5Zzzz13Telu1Zzzz3Telu1Zzzz23Telu",
   "1Zzzz16Telu2Zzzz9Telu1Zzzz3Telu1Zzzz4Telu7Zzzz2Telu1Zzzz3Telu1Zzzz2Telu2Zzzz4Telu2Zzzz10Telu",
   "7Zzzz9Telu13Knda1Zzzz3Knda1Zzzz23Knda1Zzzz10Knda1Zzzz5Knda2Zzzz9Knda1Zzzz3Knda1Zzzz4Knda",
   "7Zzzz2Knda5Zzzz3Knda1Zzzz4Knda2Zzzz10Knda1Zzzz3Knda12Zzzz13Mlym1Zzzz3Mlym1Zzzz51Mlym1Zzzz",
   "3Mlym1Zzzz6Mlym4Zzzz16Mlym2Zzzz26Mlym1Zzzz3Sinh1Zzzz18Sinh3Zzzz24Sinh1Zzzz9Sinh1Zzzz1Sinh",
   "2Zzzz7Sinh3Zzzz1Sinh4Zzzz6Sinh1Zzzz1Sinh1Zzzz8Sinh6Zzzz10Sinh2Zzzz3Sinh12Zzzz58Thai4Zzzz",
   "1Zyyy28Thai37Zzzz2Laoo1Zzzz1Laoo1Zzzz5Laoo1Zzzz24Laoo1Zzzz1Laoo1Zzzz23Laoo2Zzzz5Laoo1Zzzz",
   "1Laoo1Zzzz7Laoo1Zzzz10Laoo2Zzzz4Laoo32Zzzz72Tibt1Zzzz36Tibt4Zzzz39Tibt1Zzzz36Tibt1Zzzz15Tibt",
   "1Zzzz7Tibt4Zyyy2Tibt37Zzzz160Mymr38Geor1Zzzz1Geor5Zzzz1Geor2Zzzz43Geor1Zyyy4Geor256Hang",
   "73Ethi1Zzzz4Ethi2Zzzz7Ethi1Zzzz1Ethi1Zzzz4Ethi2Zzzz41Ethi1Zzzz4Ethi2Zzzz33Ethi1Zzzz4Ethi",
   "2Zzzz7Ethi1Zzzz1Ethi1Zzzz4Ethi2Zzzz15Ethi1Zzzz57Ethi1Zzzz4Ethi2Zzzz67Ethi2Zzzz32Ethi3Zzzz",
   "26Ethi6Zzzz86Cher2Zzzz6Cher2Zzzz640Cans29Ogam3Zzzz75Runr3Zyyy11Runr7Zzzz22Tglg9Zzzz1Tglg",
   "21Hano2Zyyy9Zzzz20Buhd12Zzzz13Tagb1Zzzz3Tagb1Zzzz2Tagb12Zzzz94Khmr2Zzzz10Khmr6Zzzz10Khmr",
   "6Zzzz2Mong2Zyyy1Mong1Zyyy20Mong6Zzzz89Mong7Zzzz43Mong5Zzzz70Cans10Zzzz31Limb1Zzzz12Limb4Zzzz",
   "12Limb4Zzzz1Limb3Zzzz12Limb30Tale2Zzzz5Tale11Zzzz44Talu4Zzzz26Talu6Zzzz11Talu3Zzzz2Talu",
   "32Khmr28Bugi2Zzzz2Bugi63Lana1Zzzz29Lana2Zzzz11Lana6Zzzz10Lana6Zzzz14Lana2Zzzz46Zinh2Zzzz",
   "12Zinh20Zzzz77Bali1Zzzz50Bali64Sund52Batk8Zzzz4Batk56Lepc3Zzzz15Lepc3Zzzz3Lepc48Olck11Cyrl",
   "5Zzzz43Geor2Zzzz3Geor8Sund8Zzzz3Zinh1Zyyy13Zinh1Zyyy7Zinh4Zyyy1Zinh6Zyyy1Zinh3Zyyy2Zinh1Zyyy",
   "5Zzzz38Latn5Grek1Cyrl49Latn5Grek4Latn5Grek13Latn1Cyrl70Latn1Grek64Zinh256Latn22Grek2Zzzz",
   "6Grek2Zzzz38Grek2Zzzz6Grek2Zzzz8Grek1Zzzz1Grek1Zzzz1Grek1Zzzz1Grek1Zzzz31Grek2Zzzz53Grek",
   "1Zzzz15Grek1Zzzz14Grek2Zzzz6Grek1Zzzz19Grek2Zzzz3Grek1Zzzz9Grek1Zzzz12Zyyy2Zinh87Zyyy1Zzzz",
   "11Zyyy1Latn2Zzzz11Zyyy1Latn15Zyyy1Zzzz13Latn3Zzzz34Zyyy14Zzzz33Zinh15Zzzz38Zyyy1Grek3Zyyy",
   "2Latn6Zyyy1Latn27Zyyy1Latn17Zyyy41Latn3Zyyy4Zzzz666Zyyy22Zzzz11Zyyy21Zzzz928Zyyy256Brai",
   "628Zyyy2Zzzz138Zyyy96Glag32Latn116Copt5Zzzz7Copt38Geor1Zzzz1Geor5Zzzz1Geor2Zzzz56Tfng7Zzzz",
   "2Tfng14Zzzz1Tfng23Ethi9Zzzz7Ethi1Zzzz7Ethi1Zzzz7Ethi1Zzzz7Ethi1Zzzz7Ethi1Zzzz7Ethi1Zzzz7Ethi",
   "1Zzzz7Ethi1Zzzz32Cyrl94Zyyy34Zzzz26Hani1Zzzz89Hani12Zzzz214Hani26Zzzz21Zyyy1Hani1Zyyy1Hani",
   "25Zyyy9Hani4Zinh2Hang8Zyyy4Hani4Zyyy1Zzzz86Hira2Zzzz2Zinh2Zyyy3Hira1Zyyy90Kana2Zyyy3Kana",
   "5Zzzz43Bopo1Zzzz94Hang1Zzzz16Zyyy32Bopo38Zyyy9Zzzz1Zyyy16Kana31Hang1Zzzz64Zyyy31Hang81Zyyy",
   "47Kana1Zyyy88Kana168Zyyy6592Hani64Zyyy20992Hani1165Yiii3Zzzz55Yiii9Zzzz48Lisu300Vaii20Zzzz",
   "96Cyrl88Bamu8Zzzz34Zyyy102Latn3Zyyy82Latn20Zzzz15Latn45Sylo3Zzzz10Zyyy6Zzzz56Phag8Zzzz70Saur",
   "8Zzzz12Saur6Zzzz32Deva46Kali1Zyyy1Kali36Rjng11Zzzz1Rjng29Hang3Zzzz78Java1Zzzz1Zyyy10Java",
   "4Zzzz2Java31Mymr1Zzzz55Cham9Zzzz14Cham2Zzzz10Cham2Zzzz4Cham32Mymr67Tavt24Zzzz5Tavt23Mtei",
   "10Zzzz6Ethi2Zzzz6Ethi2Zzzz6Ethi9Zzzz7Ethi1Zzzz7Ethi1Zzzz43Latn1Zyyy9Latn1Grek4Latn2Zyyy4Zzzz",
   "80Cher46Mtei2Zzzz10Mtei6Zzzz11172Hang12Zzzz23Hang4Zzzz49Hang8452Zzzz366Hani2Zzzz106Hani",
   "38Zzzz7Latn12Zzzz5Armn5Zzzz26Hebr1Zzzz5Hebr1Zzzz1Hebr1Zzzz2Hebr1Zzzz2Hebr1Zzzz10Hebr494Arab",
   "2Zyyy144Arab32Zzzz16Arab16Zinh10Zyyy6Zzzz14Zinh2Cyrl35Zyyy1Zzzz19Zyyy1Zzzz4Zyyy4Zzzz5Arab",
   "1Zzzz135Arab2Zzzz1Zyyy1Zzzz32Zyyy26Latn6Zyyy26Latn11Zyyy10Kana1Zyyy45Kana2Zyyy31Hang3Zzzz",
   "6Hang2Zzzz6Hang2Zzzz6Hang2Zzzz3Hang3Zzzz7Zyyy1Zzzz7Zyyy10Zzzz5Zyyy2Zzzz12Linb1Zzzz26Linb",
   "1Zzzz19Linb1Zzzz2Linb1Zzzz15Linb2Zzzz14Linb34Zzzz123Linb5Zzzz3Zyyy4Zzzz45Zyyy3Zzzz9Zyyy",
   "79Grek1Zzzz13Zyyy3Zzzz1Grek47Zzzz45Zyyy1Zinh130Zzzz29Lyci3Zzzz49Cari15Zzzz1Zinh27Zyyy4Zzzz",
   "36Ital9Zzzz3Ital27Goth5Zzzz43Perm5Zzzz30Ugar1Zzzz1Ugar36Xpeo4Zzzz14Xpeo42Zzzz80Dsrt48Shaw",
   "30Osma2Zzzz10Osma6Zzzz36Osge4Zzzz36Osge4Zzzz40Elba8Zzzz52Aghb11Zzzz1Aghb11Vith1Zzzz15Vith",
   "1Zzzz7Vith1Zzzz2Vith1Zzzz11Vith1Zzzz15Vith1Zzzz7Vith1Zzzz2Vith3Zzzz52Todr12Zzzz311Lina9Zzzz",
   "22Lina10Zzzz8Lina24Zzzz6Latn1Zzzz42Latn1Zzzz9Latn69Zzzz6Cprt2Zzzz1Cprt1Zzzz44Cprt1Zzzz2Cprt",
   "3Zzzz1Cprt2Zzzz1Cprt22Armi1Zzzz9Armi32Palm31Nbat8Zzzz9Nbat48Zzzz19Hatr1Zzzz2Hatr5Zzzz5Hatr",
   "28Phnx3Zzzz1Phnx26Lydi5Zzzz1Lydi26Sidt38Zzzz32Mero24Merc4Zzzz20Merc2Zzzz46Merc4Khar1Zzzz",
   "2Khar5Zzzz8Khar1Zzzz3Khar1Zzzz29Khar2Zzzz3Khar4Zzzz10Khar7Zzzz9Khar7Zzzz32Sarb32Narb32Zzzz",
   "39Mani4Zzzz12Mani9Zzzz54Avst3Zzzz7Avst22Prti2Zzzz8Prti19Phli5Zzzz8Phli18Phlp7Zzzz4Phlp12Zzzz",
   "7Phlp80Zzzz73Orkh55Zzzz51Hung13Zzzz51Hung7Zzzz6Hung40Rohg8Zzzz10Rohg6Zzzz38Gara3Zzzz29Gara",
   "8Zzzz2Gara208Zzzz31Arab1Zzzz42Yezi1Zzzz3Yezi2Zzzz2Yezi16Zzzz6Arab8Zzzz9Arab33Zzzz6Arab40Sogo",
   "8Zzzz42Sogd22Zzzz26Ougr38Zzzz28Chrs20Zzzz23Elym9Zzzz78Brah4Zzzz36Brah9Zzzz1Brah67Kthi10Zzzz",
   "1Kthi2Zzzz25Sora7Zzzz10Sora6Zzzz53Cakm1Zzzz18Cakm8Zzzz39Mahj9Zzzz96Shrd1Zzzz20Sinh11Zzzz",
   "18Khoj1Zzzz47Khoj62Zzzz7Mult1Zzzz1Mult1Zzzz4Mult1Zzzz15Mult1Zzzz11Mult6Zzzz59Sind5Zzzz10Sind",
   "6Zzzz4Gran1Zzzz8Gran2Zzzz2Gran2Zzzz22Gran1Zzzz7Gran1Zzzz2Gran1Zzzz5Gran1Zzzz1Zinh9Gran2Zzzz",
   "2Gran2Zzzz3Gran2Zzzz1Gran6Zzzz1Gran5Zzzz7Gran2Zzzz7Gran3Zzzz5Gran11Zzzz10Tutg1Zzzz1Tutg2Zzzz",
   "1Tutg1Zzzz38Tutg1Zzzz10Tutg1Zzzz1Tutg2Zzzz1Tutg1Zzzz4Tutg1Zzzz10Tutg1Zzzz2Tutg8Zzzz2Tutg",
   "29Zzzz92Newa1Zzzz5Newa30Zzzz72Tirh8Zzzz10Tirh166Zzzz54Sidd2Zzzz38Sidd34Zzzz69Modi11Zzzz",
   "10Modi6Zzzz13Mong19Zzzz58Takr6Zzzz10Takr6Zzzz20Mymr28Zzzz27Ahom2Zzzz15Ahom4Zzzz23Ahom185Zzzz",
   "60Dogr100Zzzz83Wara12Zzzz1Wara7Diak2Zzzz1Diak2Zzzz8Diak1Zzzz2Diak1Zzzz30Diak1Zzzz2Diak2Zzzz",
   "12Diak9Zzzz10Diak70Zzzz8Nand2Zzzz46Nand2Zzzz11Nand27Zzzz72Zanb8Zzzz83Soyo13Zzzz16Cans57Pauc",
   "7Zzzz10Deva86Zzzz8Shrd88Zzzz34Sunu14Zzzz10Sunu6Zzzz9Bhks1Zzzz45Bhks1Zzzz14Bhks10Zzzz29Bhks",
   "3Zzzz32Marc2Zzzz22Marc1Zzzz14Marc73Zzzz7Gonm1Zzzz2Gonm1Zzzz44Gonm3Zzzz1Gonm1Zzzz2Gonm1Zzzz",
   "9Gonm8Zzzz10Gonm6Zzzz6Gong1Zzzz2Gong1Zzzz37Gong1Zzzz2Gong1Zzzz6Gong7Zzzz10Gong6Zzzz44Tols",
   "4Zzzz10Tols246Zzzz25Maka7Zzzz17Kawi1Zzzz41Kawi3Zzzz29Kawi85Zzzz1Lisu15Zzzz50Taml13Zzzz1Taml",
   "922Xsux102Zzzz111Xsux1Zzzz5Xsux11Zzzz196Xsux2636Zzzz99Cpmn13Zzzz1110Egyp10Zzzz3995Egyp5Zzzz",
   "583Hluw6841Zzzz58Gukh1734Zzzz569Bamu7Zzzz31Mroo1Zzzz10Mroo4Zzzz2Mroo79Tnsa1Zzzz10Tnsa6Zzzz",
   "30Bass2Zzzz6Bass10Zzzz70Hmng10Zzzz10Hmng1Zzzz7Hmng1Zzzz21Hmng5Zzzz19Hmng432Zzzz58Krai198Zzzz",
   "91Medf5Zzzz25Berf2Zzzz25Berf44Zzzz75Plrd4Zzzz57Plrd7Zzzz17Plrd64Zzzz1Tang1Nshu2Hani1Kits",
   "11Zzzz7Hani9Zzzz6912Tang470Kits41Zzzz1Kits31Tang97Zzzz115Tang8701Zzzz4Kana1Zzzz7Kana1Zzzz",
   "2Kana1Zzzz1Kana287Hira3Kana15Zzzz1Hira29Zzzz3Hira2Zzzz1Kana14Zzzz4Kana8Zzzz396Nshu2308Zzzz",
   "107Dupl5Zzzz13Dupl3Zzzz9Dupl7Zzzz10Dupl2Zzzz4Dupl4Zyyy3932Zzzz253Zyyy3Zzzz436Zyyy6Zzzz23Zyyy",
   "15Zzzz17Zyyy15Zzzz46Zinh2Zzzz23Zinh9Zzzz116Zyyy60Zzzz246Zyyy10Zzzz39Zyyy2Zzzz62Zyyy3Zinh",
   "17Zyyy8Zinh2Zyyy7Zinh30Zyyy4Zinh61Zyyy21Zzzz70Grek122Zzzz20Zyyy12Zzzz20Zyyy12Zzzz87Zyyy9Zzzz",
   "25Zyyy135Zzzz85Zyyy1Zzzz71Zyyy1Zzzz2Zyyy2Zzzz1Zyyy2Zzzz2Zyyy2Zzzz4Zyyy1Zzzz12Zyyy1Zzzz1Zyyy",
   "1Zzzz7Zyyy1Zzzz65Zyyy1Zzzz4Zyyy2Zzzz8Zyyy1Zzzz7Zyyy1Zzzz28Zyyy1Zzzz4Zyyy1Zzzz5Zyyy1Zzzz1Zyyy",
   "3Zzzz7Zyyy1Zzzz340Zyyy2Zzzz292Zyyy2Zzzz50Zyyy652Sgnw15Zzzz5Sgnw1Zzzz15Sgnw1104Zzzz31Latn",
   "6Zzzz6Latn213Zzzz7Glag1Zzzz17Glag2Zzzz7Glag1Zzzz2Glag1Zzzz5Glag5Zzzz62Cyrl33Zzzz1Cyrl112Zzzz",
   "45Hmnp3Zzzz14Hmnp2Zzzz10Hmnp4Zzzz2Hmnp320Zzzz31Toto17Zzzz58Wcho5Zzzz1Wcho464Zzzz42Nagm",
   "214Zzzz43Onao4Zzzz1Onao192Zzzz31Tayo1Zzzz22Tayo8Zzzz2Tayo224Zzzz7Ethi1Zzzz4Ethi1Zzzz2Ethi",
   "1Zzzz15Ethi1Zzzz197Mend2Zzzz16Mend41Zzzz76Adlm4Zzzz10Adlm4Zzzz2Adlm785Zzzz68Zyyy76Zzzz61Zyyy",
   "194Zzzz4Arab1Zzzz27Arab1Zzzz2Arab1Zzzz1Arab2Zzzz1Arab1Zzzz10Arab1Zzzz4Arab1Zzzz1Arab1Zzzz",
   "1Arab6Zzzz1Arab4Zzzz1Arab1Zzzz1Arab1Zzzz1Arab1Zzzz3Arab1Zzzz2Arab1Zzzz1Arab2Zzzz1Arab1Zzzz",
   "1Arab1Zzzz1Arab1Zzzz1Arab1Zzzz1Arab1Zzzz2Arab1Zzzz1Arab2Zzzz4Arab1Zzzz7Arab1Zzzz4Arab1Zzzz",
   "4Arab1Zzzz1Arab1Zzzz10Arab1Zzzz17Arab5Zzzz3Arab1Zzzz5Arab1Zzzz17Arab52Zzzz2Arab270Zzzz44Zyyy",
   "4Zzzz100Zyyy12Zzzz15Zyyy2Zzzz15Zyyy1Zzzz15Zyyy1Zzzz37Zyyy10Zzzz174Zyyy56Zzzz26Zyyy1Hira2Zyyy",
   "13Zzzz44Zyyy4Zzzz9Zyyy7Zzzz2Zyyy14Zzzz6Zyyy154Zzzz985Zyyy3Zzzz17Zyyy3Zzzz13Zyyy3Zzzz218Zyyy",
   "6Zzzz12Zyyy4Zzzz1Zyyy15Zzzz12Zyyy4Zzzz56Zyyy8Zzzz10Zyyy6Zzzz40Zyyy8Zzzz30Zyyy2Zzzz12Zyyy",
   "4Zzzz2Zyyy14Zzzz9Zyyy39Zzzz344Zyyy8Zzzz14Zyyy2Zzzz13Zyyy3Zzzz11Zyyy3Zzzz57Zyyy1Zzzz1Zyyy",
   "4Zzzz16Zyyy2Zzzz12Zyyy4Zzzz10Zyyy7Zzzz147Zyyy1Zzzz103Zyyy1029Zzzz42720Hani32Zzzz4382Hani",
   "2Zzzz5774Hani2Zzzz7473Hani15Zzzz622Hani2466Zzzz542Hani1506Zzzz4939Hani5Zzzz8490Hani",
   "707463Zzzz1Zyyy30Zzzz96Zyyy128Zzzz240Zinh196112Zzzz"]

/-- The extension scripts of all code points in order. -/
def scriptExtensionTable : String :=
  String.join
  ["183-1Avst+Cari+Copt+Dupl+Elba+Geor+Glag+Gong+Goth+Grek+Hani+Latn+Lydi+Mahj+Perm+Shaw516-",
   "1Beng+Cyrl+Deva+Latn+Lisu+Thai+Toto10-1Bopo+Latn1-3Bopo+Latn1-1Latn+Lisu9-1Latn+Thai1-",
   "1Bopo+Latn38-1Cher+Copt+Cyrl+Grek+Latn+Perm+Tale+Sunu",
   "1Cher+Cyrl+Grek+Latn+Osge+Tale+Sunu+Todr1Cher+Cyrl+Latn+Tfng1Glag+Latn+Syrc+Thai+Sunu",
   "1Aghb+Cher+Copt+Cyrl+Goth+Grek+Latn+Osge+Syrc+Tfng+Todr1Copt+Elba+Glag+Goth+Kana+Latn",
   "1Cyrl+Grek+Latn+Perm+Tfng1Copt+Dupl+Hebr+Latn+Perm+Syrc+Tale+Tfng+Todr",
   "1Armn+Cyrl+Dupl+Goth+Grek+Hebr+Latn+Perm+Syrc+Tale+Tfng1Latn+Tfng1Dupl+Latn+Syrc",
   "1Cher+Cyrl+Latn+Osge1Cher+Latn+Tale1Latn+Sunu1Ethi+Latn1-1Latn+Sunu1Cyrl+Latn+Todr1-",
   "1Grek+Latn+Perm+Todr15-1Cher+Dupl+Kana+Latn+Syrc+Tfng1Cher+Dupl+Latn+Syrc1Latn+Syrc7-",
   "1Latn+Syrc+Sunu1Latn+Syrc1-1Cher+Latn+Syrc1Aghb+Cher+Goth+Latn+Syrc+Thai+Sunu16-1Grek2-1Grek",
   "18-1Latn+Osge5-1Aghb+Latn+Todr4-13Latn4-2Copt+Grek269-1Cyrl+Perm1Cyrl+Glag2Cyrl+Latn",
   "1Cyrl+Glag257-1Armn+Geor+Glag130-1Arab+Nkoo+Rohg+Syrc+Thaa+Yezi+Gara14-",
   "1Arab+Nkoo+Rohg+Syrc+Thaa+Yezi+Gara1Arab+Syrc+Thaa2-1Adlm+Arab+Nkoo+Rohg+Syrc+Thaa+Yezi+Gara",
   "32-1Adlm+Arab+Mand+Mani+Ougr+Phlp+Rohg+Sogd+Syrc10-11Arab+Syrc10-10Arab+Thaa+Yezi6-",
   "1Arab+Syrc99-1Arab+Rohg636-",
   "1Beng+Deva+Gran+Gujr+Guru+Knda+Latn+Mlym+Nand+Newa+Orya+Shrd+Taml+Telu+Tirh",
   "1Beng+Deva+Gran+Gujr+Guru+Knda+Latn+Mlym+Newa+Orya+Taml+Telu+Tirh17-",
   "1Beng+Deva+Dogr+Gong+Gonm+Gran+Gujr+Guru+Knda+Mahj+Mlym+Nand+Orya+Sind+Sinh+Sylo+Takr+Taml+",
   "Telu+Tirh+Onao",
   "1Beng+Deva+Dogr+Gong+Gonm+Gran+Gujr+Guru+Knda+Limb+Mahj+Mlym+Nand+Orya+Sind+Sinh+Sylo+Takr+",
   "Taml+Telu+Tirh+Gukh+Onao10Deva+Dogr+Kthi+Mahj118-10Beng+Cakm+Sylo118-10Guru+Mult118-",
   "10Gujr+Khoj246-14Gran+Taml242-10Knda+Nand+Tutg848-10Cakm+Mymr+Tale177-1Geor+Glag+Latn1519-",
   "3Runr71-2Buhd+Hano+Tagb+Tglg203-2Mong+Phag1-1Mong+Phag1226-1Beng+Deva+Gran+Knda1Deva",
   "1Beng+Deva+Gran+Knda1Deva+Gran+Knda1Deva1Beng+Deva+Newa+Telu+Tirh1Beng+Deva+Telu",
   "1Deva+Newa+Shrd1Beng+Deva+Newa+Telu1Deva+Shrd1Deva+Knda+Mlym+Orya+Taml+Telu1Deva2Deva+Shrd",
   "2Deva1Deva+Shrd1Beng+Deva1Deva+Newa+Tirh6Deva1Deva+Nand+Newa1Beng+Deva+Shrd1Deva+Newa1Deva",
   "1Beng+Deva+Newa+Shrd4Deva1Beng+Deva+Gran+Knda+Mlym+Nand+Orya+Sinh+Telu+Tirh+Tutg1Deva+Gran",
   "1Deva+Gran+Knda+Tutg2Beng+Deva1Beng2Deva+Gran1Nand197-2Grek54-1Cyrl+Latn+Syrc1-1Syrc564-",
   "1Latn+Mong+Phag31-1Adlm+Arab10-1Cari+Geor+Glag+Hung+Lyci+Orkh2-1Cari+Grek+Hung+Mero146-",
   "1Deva+Gran+Latn3366-1Copt+Latn24-1Avst+Orkh1Avst+Cari+Geor+Hung+Kthi+Lydi+Samr10-1Dupl4-",
   "1Adlm+Arab+Hung1-1Cyrl+Glag428-16Hani+Tang1-1Bopo+Hang+Hani+Hira+Kana+Mong+Yiii",
   "1Bopo+Hang+Hani+Hira+Kana+Mong+Phag+Yiii1Bopo+Hang+Hani+Hira+Kana2-1Hani1-",
   "2Bopo+Hang+Hani+Hira+Kana+Mong+Tibt+Yiii2Bopo+Hang+Hani+Hira+Kana+Lisu+Mong+Tibt+Yiii",
   "6Bopo+Hang+Hani+Hira+Kana+Yiii1-1Bopo+Hang+Hani+Hira+Kana8Bopo+Hang+Hani+Hira+Kana+Yiii",
   "4Bopo+Hang+Hani+Hira+Kana10-4Bopo+Hani2-1Bopo+Hang+Hani+Hira+Kana5Hira+Kana1-",
   "1Bopo+Hang+Hani+Hira+Kana4-2Hani+Hira+Kana2Hani89-4Hira+Kana3-1Hira+Kana90-",
   "1Bopo+Hang+Hani+Hira+Kana+Yiii1Hira+Kana147-16Hani32-38Hani9-1Hani+Tang48-40Hani56-49Hani15-",
   "12Hani51-1Hani88-25Hani10-5Hani96-31Hani29296-1Cyrl+Glag144-8Hani+Latn296-",
   "3Deva+Dogr+Gujr+Guru+Khoj+Knda+Kthi+Mahj+Mlym+Modi+Nand+Shrd+Sind+Takr+Tirh+Tutg",
   "3Deva+Dogr+Gujr+Guru+Khoj+Knda+Kthi+Mahj+Modi+Nand+Shrd+Sind+Takr+Tirh+Tutg",
   "2Deva+Dogr+Gujr+Guru+Khoj+Kthi+Mahj+Modi+Sind+Takr+Tirh",
   "1Deva+Dogr+Gujr+Guru+Khoj+Kthi+Mahj+Modi+Shrd+Sind+Takr+Tirh",
   "1Deva+Dogr+Gujr+Guru+Khoj+Kthi+Mahj+Modi+Sind+Takr+Tirh183-1Beng+Deva+Tutg1-1Deva+Taml58-",
   "1Kali+Latn+Mymr160-1Bugi+Java21358-2Arab+Nkoo178-1Arab+Thaa10-1Arab+Thaa71-",
   "2Bopo+Hang+Hani+Hira+Kana282-5Bopo+Hang+Hani+Hira+Kana+Yiii10-1Hira+Kana45-2Hira+Kana352-",
   "2Cpmn+Cprt+Linb1Cprt+Linb4-45Cprt+Lina+Linb3-9Cprt+Linb416-28Arab+Copt2038-1Mani+Ougr2062-",
   "1Gran+Taml1-1Gran+Taml55-2Gran+Taml3219-2Gran+Taml1-1Gran+Taml40140-4Dupl5820-18Hani7902-",
   "2Hani986542-"]

/-- The script codes, each with its names in lower case without separators. -/
def scriptNameTable : String :=
  String.join
  ["Adlm:adlm,adlam Aghb:aghb,caucasianalbanian Ahom:ahom Arab:arab,arabic ",
   "Armi:armi,imperialaramaic Armn:armn,armenian Avst:avst,avestan Bali:bali,balinese ",
   "Bamu:bamu,bamum Bass:bass,bassavah Batk:batk,batak Beng:beng,bengali Bhks:bhks,bhaiksuki ",
   "Bopo:bopo,bopomofo Brah:brah,brahmi Brai:brai,braille Bugi:bugi,buginese Buhd:buhd,buhid ",
   "Cakm:cakm,chakma Cans:cans,canadianaboriginal Cari:cari,carian Cham:cham Cher:cher,cherokee ",
   "Chrs:chrs,chorasmian Copt:copt,coptic,qaac Cpmn:cpmn,cyprominoan Cprt:cprt,cypriot ",
   "Cyrl:cyrl,cyrillic Deva:deva,devanagari Diak:diak,divesakuru Dogr:dogr,dogra ",
   "Dsrt:dsrt,deseret Dupl:dupl,duployan Egyp:egyp,egyptianhieroglyphs Elba:elba,elbasan ",
   "Elym:elym,elymaic Ethi:ethi,ethiopic Geor:geor,georgian Glag:glag,glagolitic ",
   "Gong:gong,gunjalagondi Gonm:gonm,masaramgondi Goth:goth,gothic Gran:gran,grantha ",
   "Grek:grek,greek Gujr:gujr,gujarati Guru:guru,gurmukhi Hang:hang,hangul Hani:hani,han ",
   "Hano:hano,hanunoo Hatr:hatr,hatran Hebr:hebr,hebrew Hira:hira,hiragana ",
   "Hluw:hluw,anatolianhieroglyphs Hmng:hmng,pahawhhmong Hmnp:hmnp,nyiakengpuachuehmong ",
   "Hung:hung,oldhungarian Ital:ital,olditalic Java:java,javanese Kali:kali,kayahli ",
   "Kana:kana,katakana Kawi:kawi Khar:khar,kharoshthi Khmr:khmr,khmer Khoj:khoj,khojki ",
   "Kits:kits,khitansmallscript Knda:knda,kannada Kthi:kthi,kaithi Lana:lana,taitham ",
   "Laoo:laoo,lao Latn:latn,latin Lepc:lepc,lepcha Limb:limb,limbu Lina:lina,lineara ",
   "Linb:linb,linearb Lisu:lisu Lyci:lyci,lycian Lydi:lydi,lydian Mahj:mahj,mahajani ",
   "Maka:maka,makasar Mand:mand,mandaic Mani:mani,manichaean Marc:marc,marchen ",
   "Medf:medf,medefaidrin Mend:mend,mendekikakui Merc:merc,meroiticcursive ",
   "Mero:mero,meroitichieroglyphs Mlym:mlym,malayalam Modi:modi Mong:mong,mongolian ",
   "Mroo:mroo,mro Mtei:mtei,meeteimayek Mult:mult,multani Mymr:mymr,myanmar ",
   "Nagm:nagm,nagmundari Nand:nand,nandinagari Narb:narb,oldnortharabian Nbat:nbat,nabataean ",
   "Newa:newa Nkoo:nkoo,nko Nshu:nshu,nushu Ogam:ogam,ogham Olck:olck,olchiki ",
   "Orkh:orkh,oldturkic Orya:orya,oriya Osge:osge,osage Osma:osma,osmanya Ougr:ougr,olduyghur ",
   "Palm:palm,palmyrene Pauc:pauc,paucinhau Perm:perm,oldpermic Phag:phag,phagspa ",
   "Phli:phli,inscriptionalpahlavi Phlp:phlp,psalterpahlavi Phnx:phnx,phoenician Plrd:plrd,miao ",
   "Prti:prti,inscriptionalparthian Rjng:rjng,rejang Rohg:rohg,hanifirohingya Runr:runr,runic ",
   "Samr:samr,samaritan Sarb:sarb,oldsoutharabian Saur:saur,saurashtra Sgnw:sgnw,signwriting ",
   "Shaw:shaw,shavian Shrd:shrd,sharada Sidd:sidd,siddham Sind:sind,khudawadi Sinh:sinh,sinhala ",
   "Sogd:sogd,sogdian Sogo:sogo,oldsogdian Sora:sora,sorasompeng Soyo:soyo,soyombo ",
   "Sund:sund,sundanese Sylo:sylo,sylotinagri Syrc:syrc,syriac Tagb:tagb,tagbanwa ",
   "Takr:takr,takri Tale:tale,taile Talu:talu,newtailue Taml:taml,tamil Tang:tang,tangut ",
   "Tavt:tavt,taiviet Telu:telu,telugu Tfng:tfng,tifinagh Tglg:tglg,tagalog Thaa:thaa,thaana ",
   "Thai:thai Tibt:tibt,tibetan Tirh:tirh,tirhuta Tnsa:tnsa,tangsa Toto:toto Ugar:ugar,ugaritic ",
   "Vaii:vaii,vai Vith:vith,vithkuqi Wara:wara,warangciti Wcho:wcho,wancho Xpeo:xpeo,oldpersian ",
   "Xsux:xsux,cuneiform Yezi:yezi,yezidi Yiii:yiii,yi Zanb:zanb,zanabazarsquare ",
   "Zinh:zinh,inherited,qaai Zyyy:zyyy,common Gara:gara,garay Gukh:gukh,gurungkhema ",
   "Krai:krai,kiratrai Onao:onao,olonal Sunu:sunu,sunuwar Todr:todr,todhri ",
   "Tutg:tutg,tulutigalari Berf:berf,beriaerfe Sidt:sidt,sidetic Tayo:tayo,taiyo ",
   "Tols:tols,tolongsiki"]

/-- The runs of equal script. -/
def scriptRuns : List (Nat × String) := readRuns scriptTable

/-- The runs of equal extension scripts. -/
def scriptExtensionRuns : List (Nat × String) := readRuns scriptExtensionTable

/-- The code of the script with the given name, written in lower case without separators. -/
def scriptCode? (name : String) : Option String :=
  (scriptNameTable.splitOn " ").findSome? fun entry =>
    match entry.splitOn ":" with
    | [code, names] => if (names.splitOn ",").contains name then some code else none
    | _ => none

/-- The code points of a script. -/
def scriptSet (code : String) : CodeSet :=
  labelled scriptRuns (· == code)

/-- The code points that are used with a script: those whose extension lists it, and those of the
script itself that have no extension. -/
def scriptExtensionSet (code : String) : CodeSet :=
  let plain := labelled scriptExtensionRuns (· == "-")
  (plain.inter (scriptSet code)).union
    (labelled scriptExtensionRuns fun label => (label.splitOn "+").contains code)

end FileSieve.Text
