namespace ProviderGen.Text

/-- Groups of three: two characters, and the one that they combine into. -/
def combinations : List String :=
  ["ÀÀÁÁÂÂÃÃÄÄÅÅÇÇÈÈÉÉÊÊËËÌÌÍÍÎÎÏÏÑÑÒÒÓÓ",
   "ÔÔÕÕÖÖÙÙÚÚÛÛÜÜÝÝààááââããääååççèèééêê",
   "ëëììííîîïïññòòóóôôõõööùùúúûûüüýýÿÿĀĀ",
   "āāĂĂăăĄĄąąĆĆććĈĈĉĉĊĊċċČČččĎĎďďĒĒēēĔĔ",
   "ĕĕĖĖėėĘĘęęĚĚěěĜĜĝĝĞĞğğĠĠġġĢĢģģĤĤĥĥĨĨ",
   "ĩĩĪĪīīĬĬĭĭĮĮįįİİĴĴĵĵĶĶķķĹĹĺĺĻĻļļĽĽľľ",
   "ŃŃńńŅŅņņŇŇňňŌŌōōŎŎŏŏŐŐőőŔŔŕŕŖŖŗŗŘŘřř",
   "ŚŚśśŜŜŝŝŞŞşşŠŠššŢŢţţŤŤťťŨŨũũŪŪūūŬŬŭŭ",
   "ŮŮůůŰŰűűŲŲųųŴŴŵŵŶŶŷŷŸŸŹŹźźŻŻżżŽŽžžƠƠ",
   "ơơƯƯưưǍǍǎǎǏǏǐǐǑǑǒǒǓǓǔǔǕǕǖǖǗǗǘǘǙǙǚǚǛǛ",
   "ǜǜǞǞǟǟǠǠǡǡǢǢǣǣǦǦǧǧǨǨǩǩǪǪǫǫǬǬǭǭǮǮǯǯǰǰ",
   "ǴǴǵǵǸǸǹǹǺǺǻǻǼǼǽǽǾǾǿǿȀȀȁȁȂȂȃȃȄȄȅȅȆȆȇȇ",
   "ȈȈȉȉȊȊȋȋȌȌȍȍȎȎȏȏȐȐȑȑȒȒȓȓȔȔȕȕȖȖȗȗȘȘșș",
   "ȚȚțțȞȞȟȟȦȦȧȧȨȨȩȩȪȪȫȫȬȬȭȭȮȮȯȯȰȰȱȱȲȲȳȳ",
   "ΆΆΈΈΉΉΊΊΌΌΎΎΏΏΐΐΪΪΫΫάάέέήήίίΰΰϊϊϋϋόό",
   "ύύώώϓϓϔϔЀЀЁЁЃЃЇЇЌЌЍЍЎЎЙЙййѐѐёёѓѓїїќќ",
   "ѝѝўўѶѶѷѷӁӁӂӂӐӐӑӑӒӒӓӓӖӖӗӗӚӚӛӛӜӜӝӝӞӞӟӟ",
   "ӢӢӣӣӤӤӥӥӦӦӧӧӪӪӫӫӬӬӭӭӮӮӯӯӰӰӱӱӲӲӳӳӴӴӵӵ",
   "ӸӸӹӹآآأأؤؤإإئئۀۀۂۂۓۓऩऩऱऱऴऴোোৌৌୈୈୋୋୌୌ",
   "ஔஔொொோோௌௌైైೀೀೇೇೈೈೊೊೋೋൊൊോോൌൌේේොොෝෝෞෞဦဦ",
   "ᬆᬆᬈᬈᬊᬊᬌᬌᬎᬎᬒᬒᬻᬻᬽᬽᭀᭀᭁᭁᭃᭃḀḀḁḁḂḂḃḃḄḄḅḅḆḆ",
   "ḇḇḈḈḉḉḊḊḋḋḌḌḍḍḎḎḏḏḐḐḑḑḒḒḓḓḔḔḕḕḖḖḗḗḘḘ",
   "ḙḙḚḚḛḛḜḜḝḝḞḞḟḟḠḠḡḡḢḢḣḣḤḤḥḥḦḦḧḧḨḨḩḩḪḪ",
   "ḫḫḬḬḭḭḮḮḯḯḰḰḱḱḲḲḳḳḴḴḵḵḶḶḷḷḸḸḹḹḺḺḻḻḼḼ",
   "ḽḽḾḾḿḿṀṀṁṁṂṂṃṃṄṄṅṅṆṆṇṇṈṈṉṉṊṊṋṋṌṌṍṍṎṎ",
   "ṏṏṐṐṑṑṒṒṓṓṔṔṕṕṖṖṗṗṘṘṙṙṚṚṛṛṜṜṝṝṞṞṟṟṠṠ",
   "ṡṡṢṢṣṣṤṤṥṥṦṦṧṧṨṨṩṩṪṪṫṫṬṬṭṭṮṮṯṯṰṰṱṱṲṲ",
   "ṳṳṴṴṵṵṶṶṷṷṸṸṹṹṺṺṻṻṼṼṽṽṾṾṿṿẀẀẁẁẂẂẃẃẄẄ",
   "ẅẅẆẆẇẇẈẈẉẉẊẊẋẋẌẌẍẍẎẎẏẏẐẐẑẑẒẒẓẓẔẔẕẕẖẖ",
   "ẗẗẘẘẙẙẛẛẠẠạạẢẢảảẤẤấấẦẦầầẨẨẩẩẪẪẫẫẬẬậậ",
   "ẮẮắắẰẰằằẲẲẳẳẴẴẵẵẶẶặặẸẸẹẹẺẺẻẻẼẼẽẽẾẾếế",
   "ỀỀềềỂỂểểỄỄễễỆỆệệỈỈỉỉỊỊịịỌỌọọỎỎỏỏỐỐốố",
   "ỒỒồồỔỔổổỖỖỗỗỘỘộộỚỚớớỜỜờờỞỞởởỠỠỡỡỢỢợợ",
   "ỤỤụụỦỦủủỨỨứứỪỪừừỬỬửửỮỮữữỰỰựựỲỲỳỳỴỴỵỵ",
   "ỶỶỷỷỸỸỹỹἀἀἁἁἂἂἃἃἄἄἅἅἆἆἇἇἈἈἉἉἊἊἋἋἌἌἍἍ",
   "ἎἎἏἏἐἐἑἑἒἒἓἓἔἔἕἕἘἘἙἙἚἚἛἛἜἜἝἝἠἠἡἡἢἢἣἣ",
   "ἤἤἥἥἦἦἧἧἨἨἩἩἪἪἫἫἬἬἭἭἮἮἯἯἰἰἱἱἲἲἳἳἴἴἵἵ",
   "ἶἶἷἷἸἸἹἹἺἺἻἻἼἼἽἽἾἾἿἿὀὀὁὁὂὂὃὃὄὄὅὅὈὈὉὉ",
   "ὊὊὋὋὌὌὍὍὐὐὑὑὒὒὓὓὔὔὕὕὖὖὗὗὙὙὛὛὝὝὟὟὠὠὡὡ",
   "ὢὢὣὣὤὤὥὥὦὦὧὧὨὨὩὩὪὪὫὫὬὬὭὭὮὮὯὯὰὰὲὲὴὴὶὶ",
   "ὸὸὺὺὼὼᾀᾀᾁᾁᾂᾂᾃᾃᾄᾄᾅᾅᾆᾆᾇᾇᾈᾈᾉᾉᾊᾊᾋᾋᾌᾌᾍᾍᾎᾎ",
   "ᾏᾏᾐᾐᾑᾑᾒᾒᾓᾓᾔᾔᾕᾕᾖᾖᾗᾗᾘᾘᾙᾙᾚᾚᾛᾛᾜᾜᾝᾝᾞᾞᾟᾟᾠᾠ",
   "ᾡᾡᾢᾢᾣᾣᾤᾤᾥᾥᾦᾦᾧᾧᾨᾨᾩᾩᾪᾪᾫᾫᾬᾬᾭᾭᾮᾮᾯᾯᾰᾰᾱᾱᾲᾲ",
   "ᾳᾳᾴᾴᾶᾶᾷᾷᾸᾸᾹᾹᾺᾺᾼᾼῂῂῃῃῄῄῆῆῇῇῈῈῊῊῌῌῐῐῑῑ",
   "ῒῒῖῖῗῗῘῘῙῙῚῚῠῠῡῡῢῢῤῤῥῥῦῦῧῧῨῨῩῩῪῪῬῬῲῲ",
   "ῳῳῴῴῶῶῷῷῸῸῺῺῼῼががぎぎぐぐげげごござざじじずずぜぜぞぞだだ",
   "ぢぢづづででどどばばぱぱびびぴぴぶぶぷぷべべぺぺぼぼぽぽゔゔゞゞガガギギ",
   "ググゲゲゴゴザザジジズズゼゼゾゾダダヂヂヅヅデデドドババパパビビピピブブ",
   "ププベベペペボボポポヴヴヷヷヸヸヹヹヺヺヾヾ𑂚𑂚𑂜𑂜𑂫𑂫𑄮𑄮𑄯𑄯𑍋𑍋𑍌𑍌",
   "𑒻𑒻𑒼𑒼𑒾𑒾𑖺𑖺𑖻𑖻𑤸𑤸"]

/-- Groups of two: a character, and the one that it stands for. -/
def equivalents : List String :=
  ["ªaµμºoſsʰhʱɦʲjʳrʴɹʵɻʶʁʷwʸyˠɣˡlˢsˣxˤʕ̀̀́́̓̓ʹʹ··ϐβϑθϒΥϕφϖπ",
   "ϰκϱρϲςϴΘϵεϹΣჼნᴬAᴭÆᴮBᴰDᴱEᴲƎᴳGᴴHᴵIᴶJᴷKᴸLᴹMᴺNᴼOᴽȢᴾPᴿRᵀTᵁUᵂW",
   "ᵃaᵄɐᵅɑᵆᴂᵇbᵈdᵉeᵊəᵋɛᵌɜᵍgᵏkᵐmᵑŋᵒoᵓɔᵔᴖᵕᴗᵖpᵗtᵘuᵙᴝᵚɯᵛvᵜᴥᵝβᵞγᵟδ",
   "ᵠφᵡχᵢiᵣrᵤuᵥvᵦβᵧγᵨρᵩφᵪχᵸнᶛɒᶜcᶝɕᶞðᶟɜᶠfᶡɟᶢɡᶣɥᶤɨᶥɩᶦɪᶧᵻᶨʝᶩɭᶪᶅ",
   "ᶫʟᶬɱᶭɰᶮɲᶯɳᶰɴᶱɵᶲɸᶳʂᶴʃᶵƫᶶʉᶷʊᶸᴜᶹʋᶺʌᶻzᶼʐᶽʑᶾʒᶿθιιⁱiⁿnₐaₑeₒoₓx",
   "ₔəₕhₖkₗlₘmₙnₚpₛsₜtℂCℇƐℊgℋHℌHℍHℎhℏħℐIℑIℒLℓlℕNℙPℚQℛRℜRℝRℤZ",
   "ΩΩℨZKKℬBℭCℯeℰEℱFℳMℴoℵאℶבℷגℸדℹiℼπℽγℾΓℿΠⅅDⅆdⅇeⅈiⅉjⅠIⅤVⅩXⅬL",
   "ⅭCⅮDⅯMⅰiⅴvⅹxⅼlⅽcⅾdⅿmⱼjⱽVⵯⵡ〸十〹卄〺卅ㄱᄀㄲᄁㄳᆪㄴᄂㄵᆬㄶᆭㄷᄃㄸᄄㄹᄅㄺᆰㄻᆱㄼᆲ",
   "ㄽᆳㄾᆴㄿᆵㅀᄚㅁᄆㅂᄇㅃᄈㅄᄡㅅᄉㅆᄊㅇᄋㅈᄌㅉᄍㅊᄎㅋᄏㅌᄐㅍᄑㅎᄒㅏᅡㅐᅢㅑᅣㅒᅤㅓᅥㅔᅦㅕᅧㅖᅨㅗᅩㅘᅪ",
   "ㅙᅫㅚᅬㅛᅭㅜᅮㅝᅯㅞᅰㅟᅱㅠᅲㅡᅳㅢᅴㅣᅵㅤᅠㅥᄔㅦᄕㅧᇇㅨᇈㅩᇌㅪᇎㅫᇓㅬᇗㅭᇙㅮᄜㅯᇝㅰᇟㅱᄝㅲᄞㅳᄠㅴᄢ",
   "ㅵᄣㅶᄧㅷᄩㅸᄫㅹᄬㅺᄭㅻᄮㅼᄯㅽᄲㅾᄶㅿᅀㆀᅇㆁᅌㆂᇱㆃᇲㆄᅗㆅᅘㆆᅙㆇᆄㆈᆅㆉᆈㆊᆑㆋᆒㆌᆔㆍᆞㆎᆡꚜъꚝь",
   "ꝰꝯꟲCꟳFꟴQꟸĦꟹœꭜꜧꭝꬷꭞɫꭟꭒꭩʍ豈豈更更車車賈賈滑滑串串句句龜龜龜龜契契金金喇喇奈奈懶懶癩癩羅羅蘿蘿",
   "螺螺裸裸邏邏樂樂洛洛烙烙珞珞落落酪酪駱駱亂亂卵卵欄欄爛爛蘭蘭鸞鸞嵐嵐濫濫藍藍襤襤拉拉臘臘蠟蠟廊廊朗朗浪浪狼狼郎郎",
   "來來冷冷勞勞擄擄櫓櫓爐爐盧盧老老蘆蘆虜虜路路露露魯魯鷺鷺碌碌祿祿綠綠菉菉錄錄鹿鹿論論壟壟弄弄籠籠聾聾牢牢磊磊賂賂",
   "雷雷壘壘屢屢樓樓淚淚漏漏累累縷縷陋陋勒勒肋肋凜凜凌凌稜稜綾綾菱菱陵陵讀讀拏拏樂樂諾諾丹丹寧寧怒怒率率異異北北磻磻",
   "便便復復不不泌泌數數索索參參塞塞省省葉葉說說殺殺辰辰沈沈拾拾若若掠掠略略亮亮兩兩凉凉梁梁糧糧良良諒諒量量勵勵呂呂",
   "女女廬廬旅旅濾濾礪礪閭閭驪驪麗麗黎黎力力曆曆歷歷轢轢年年憐憐戀戀撚撚漣漣煉煉璉璉秊秊練練聯聯輦輦蓮蓮連連鍊鍊列列",
   "劣劣咽咽烈烈裂裂說說廉廉念念捻捻殮殮簾簾獵獵令令囹囹寧寧嶺嶺怜怜玲玲瑩瑩羚羚聆聆鈴鈴零零靈靈領領例例禮禮醴醴隸隸",
   "惡惡了了僚僚寮寮尿尿料料樂樂燎燎療療蓼蓼遼遼龍龍暈暈阮阮劉劉杻杻柳柳流流溜溜琉琉留留硫硫紐紐類類六六戮戮陸陸倫倫",
   "崙崙淪淪輪輪律律慄慄栗栗率率隆隆利利吏吏履履易易李李梨梨泥泥理理痢痢罹罹裏裏裡裡里里離離匿匿溺溺吝吝燐燐璘璘藺藺",
   "隣隣鱗鱗麟麟林林淋淋臨臨立立笠笠粒粒狀狀炙炙識識什什茶茶刺刺切切度度拓拓糖糖宅宅洞洞暴暴輻輻行行降降見見廓廓兀兀",
   "嗀嗀塚塚晴晴凞凞猪猪益益礼礼神神祥祥福福靖靖精精羽羽蘒蘒諸諸逸逸都都飯飯飼飼館館鶴鶴郞郞隷隷侮侮僧僧免免勉勉勤勤",
   "卑卑喝喝嘆嘆器器塀塀墨墨層層屮屮悔悔慨慨憎憎懲懲敏敏既既暑暑梅梅海海渚渚漢漢煮煮爫爫琢琢碑碑社社祉祉祈祈祐祐祖祖",
   "祝祝禍禍禎禎穀穀突突節節練練縉縉繁繁署署者者臭臭艹艹艹艹著著褐褐視視謁謁謹謹賓賓贈贈辶辶逸逸難難響響頻頻恵恵𤋮𤋮",
   "舘舘並並况况全全侀侀充充冀冀勇勇勺勺喝喝啕啕喙喙嗢嗢塚塚墳墳奄奄奔奔婢婢嬨嬨廒廒廙廙彩彩徭徭惘惘慎慎愈愈憎憎慠慠",
   "懲懲戴戴揄揄搜搜摒摒敖敖晴晴朗朗望望杖杖歹歹殺殺流流滛滛滋滋漢漢瀞瀞煮煮瞧瞧爵爵犯犯猪猪瑱瑱甆甆画画瘝瘝瘟瘟益益",
   "盛盛直直睊睊着着磌磌窱窱節節类类絛絛練練缾缾者者荒荒華華蝹蝹襁襁覆覆視視調調諸諸請請謁謁諾諾諭諭謹謹變變贈贈輸輸",
   "遲遲醙醙鉶鉶陼陼難難靖靖韛韛響響頋頋頻頻鬒鬒龜龜𢡊𢡊𢡄𢡄𣏕𣏕㮝㮝䀘䀘䀹䀹𥉉𥉉𥳐𥳐𧻓𧻓齃齃龎龎ﬠעﬡאﬢדﬣהﬤכ",
   "ﬥלﬦםﬧרﬨתﭐٱﭑٱﭒٻﭓٻﭔٻﭕٻﭖپﭗپﭘپﭙپﭚڀﭛڀﭜڀﭝڀﭞٺﭟٺﭠٺﭡٺﭢٿﭣٿﭤٿﭥٿﭦٹﭧٹ",
   "ﭨٹﭩٹﭪڤﭫڤﭬڤﭭڤﭮڦﭯڦﭰڦﭱڦﭲڄﭳڄﭴڄﭵڄﭶڃﭷڃﭸڃﭹڃﭺچﭻچﭼچﭽچﭾڇﭿڇﮀڇﮁڇﮂڍﮃڍ",
   "ﮄڌﮅڌﮆڎﮇڎﮈڈﮉڈﮊژﮋژﮌڑﮍڑﮎکﮏکﮐکﮑکﮒگﮓگﮔگﮕگﮖڳﮗڳﮘڳﮙڳﮚڱﮛڱﮜڱﮝڱﮞںﮟں",
   "ﮠڻﮡڻﮢڻﮣڻﮦہﮧہﮨہﮩہﮪھﮫھﮬھﮭھﮮےﮯےﯓڭﯔڭﯕڭﯖڭﯗۇﯘۇﯙۆﯚۆﯛۈﯜۈﯞۋﯟۋﯠۅﯡۅ",
   "ﯢۉﯣۉﯤېﯥېﯦېﯧېﯨىﯩىﯼیﯽیﯾیﯿی︳_︴_﹍_﹎_﹏_ﺀءﺍاﺎاﺏبﺐبﺑبﺒبﺓةﺔةﺕتﺖت",
   "ﺗتﺘتﺙثﺚثﺛثﺜثﺝجﺞجﺟجﺠجﺡحﺢحﺣحﺤحﺥخﺦخﺧخﺨخﺩدﺪدﺫذﺬذﺭرﺮرﺯزﺰزﺱسﺲس",
   "ﺳسﺴسﺵشﺶشﺷشﺸشﺹصﺺصﺻصﺼصﺽضﺾضﺿضﻀضﻁطﻂطﻃطﻄطﻅظﻆظﻇظﻈظﻉعﻊعﻋعﻌعﻍغﻎغ",
   "ﻏغﻐغﻑفﻒفﻓفﻔفﻕقﻖقﻗقﻘقﻙكﻚكﻛكﻜكﻝلﻞلﻟلﻠلﻡمﻢمﻣمﻤمﻥنﻦنﻧنﻨنﻩهﻪه",
   "ﻫهﻬهﻭوﻮوﻯىﻰىﻱيﻲيﻳيﻴي０0１1２2３3４4５5６6７7８8９9ＡAＢBＣCＤDＥEＦFＧGＨH",
   "ＩIＪJＫKＬLＭMＮNＯOＰPＱQＲRＳSＴTＵUＶVＷWＸXＹYＺZ＿_ａaｂbｃcｄdｅeｆfｇgｈhｉi",
   "ｊjｋkｌlｍmｎnｏoｐpｑqｒrｓsｔtｕuｖvｗwｘxｙyｚzｦヲｧァｨィｩゥｪェｫォｬャｭュｮョｯッｰー",
   "ｱアｲイｳウｴエｵオｶカｷキｸクｹケｺコｻサｼシｽスｾセｿソﾀタﾁチﾂツﾃテﾄトﾅナﾆニﾇヌﾈネﾉノﾊハﾋヒﾌフ",
   "ﾍヘﾎホﾏマﾐミﾑムﾒメﾓモﾔヤﾕユﾖヨﾗラﾘリﾙルﾚレﾛロﾜワﾝンﾞ゙ﾟ゚ﾠᅠﾡᄀﾢᄁﾣᆪﾤᄂﾥᆬﾦᆭﾧᄃﾨᄄ",
   "ﾩᄅﾪᆰﾫᆱﾬᆲﾭᆳﾮᆴﾯᆵﾰᄚﾱᄆﾲᄇﾳᄈﾴᄡﾵᄉﾶᄊﾷᄋﾸᄌﾹᄍﾺᄎﾻᄏﾼᄐﾽᄑﾾᄒￂᅡￃᅢￄᅣￅᅤￆᅥￇᅦ",
   "ￊᅧￋᅨￌᅩￍᅪￎᅫￏᅬￒᅭￓᅮￔᅯￕᅰￖᅱￗᅲￚᅳￛᅴￜᅵ𐞁ː𐞂ˑ𐞃æ𐞄ʙ𐞅ɓ𐞇ʣ𐞈ꭦ𐞉ʥ𐞊ʤ𐞋ɖ𐞌ɗ𐞍ᶑ𐞎ɘ",
   "𐞏ɞ𐞐ʩ𐞑ɤ𐞒ɢ𐞓ɠ𐞔ʛ𐞕ħ𐞖ʜ𐞗ɧ𐞘ʄ𐞙ʪ𐞚ʫ𐞛ɬ𐞜𝼄𐞝ꞎ𐞞ɮ𐞟𝼅𐞠ʎ𐞡𝼆𐞢ø𐞣ɶ𐞤ɷ𐞥q𐞦ɺ𐞧𝼈𐞨ɽ𐞩ɾ𐞪ʀ",
   "𐞫ʨ𐞬ʦ𐞭ꭧ𐞮ʧ𐞯ʈ𐞰ⱱ𐞲ʏ𐞳ʡ𐞴ʢ𐞵ʘ𐞶ǀ𐞷ǁ𐞸ǂ𐞹𝼊𐞺𝼞𝐀A𝐁B𝐂C𝐃D𝐄E𝐅F𝐆G𝐇H𝐈I𝐉J𝐊K𝐋L𝐌M",
   "𝐍N𝐎O𝐏P𝐐Q𝐑R𝐒S𝐓T𝐔U𝐕V𝐖W𝐗X𝐘Y𝐙Z𝐚a𝐛b𝐜c𝐝d𝐞e𝐟f𝐠g𝐡h𝐢i𝐣j𝐤k𝐥l𝐦m𝐧n𝐨o",
   "𝐩p𝐪q𝐫r𝐬s𝐭t𝐮u𝐯v𝐰w𝐱x𝐲y𝐳z𝐴A𝐵B𝐶C𝐷D𝐸E𝐹F𝐺G𝐻H𝐼I𝐽J𝐾K𝐿L𝑀M𝑁N𝑂O𝑃P𝑄Q",
   "𝑅R𝑆S𝑇T𝑈U𝑉V𝑊W𝑋X𝑌Y𝑍Z𝑎a𝑏b𝑐c𝑑d𝑒e𝑓f𝑔g𝑖i𝑗j𝑘k𝑙l𝑚m𝑛n𝑜o𝑝p𝑞q𝑟r𝑠s𝑡t",
   "𝑢u𝑣v𝑤w𝑥x𝑦y𝑧z𝑨A𝑩B𝑪C𝑫D𝑬E𝑭F𝑮G𝑯H𝑰I𝑱J𝑲K𝑳L𝑴M𝑵N𝑶O𝑷P𝑸Q𝑹R𝑺S𝑻T𝑼U𝑽V",
   "𝑾W𝑿X𝒀Y𝒁Z𝒂a𝒃b𝒄c𝒅d𝒆e𝒇f𝒈g𝒉h𝒊i𝒋j𝒌k𝒍l𝒎m𝒏n𝒐o𝒑p𝒒q𝒓r𝒔s𝒕t𝒖u𝒗v𝒘w𝒙x",
   "𝒚y𝒛z𝒜A𝒞C𝒟D𝒢G𝒥J𝒦K𝒩N𝒪O𝒫P𝒬Q𝒮S𝒯T𝒰U𝒱V𝒲W𝒳X𝒴Y𝒵Z𝒶a𝒷b𝒸c𝒹d𝒻f𝒽h𝒾i𝒿j",
   "𝓀k𝓁l𝓂m𝓃n𝓅p𝓆q𝓇r𝓈s𝓉t𝓊u𝓋v𝓌w𝓍x𝓎y𝓏z𝓐A𝓑B𝓒C𝓓D𝓔E𝓕F𝓖G𝓗H𝓘I𝓙J𝓚K𝓛L𝓜M",
   "𝓝N𝓞O𝓟P𝓠Q𝓡R𝓢S𝓣T𝓤U𝓥V𝓦W𝓧X𝓨Y𝓩Z𝓪a𝓫b𝓬c𝓭d𝓮e𝓯f𝓰g𝓱h𝓲i𝓳j𝓴k𝓵l𝓶m𝓷n𝓸o",
   "𝓹p𝓺q𝓻r𝓼s𝓽t𝓾u𝓿v𝔀w𝔁x𝔂y𝔃z𝔄A𝔅B𝔇D𝔈E𝔉F𝔊G𝔍J𝔎K𝔏L𝔐M𝔑N𝔒O𝔓P𝔔Q𝔖S𝔗T𝔘U",
   "𝔙V𝔚W𝔛X𝔜Y𝔞a𝔟b𝔠c𝔡d𝔢e𝔣f𝔤g𝔥h𝔦i𝔧j𝔨k𝔩l𝔪m𝔫n𝔬o𝔭p𝔮q𝔯r𝔰s𝔱t𝔲u𝔳v𝔴w𝔵x",
   "𝔶y𝔷z𝔸A𝔹B𝔻D𝔼E𝔽F𝔾G𝕀I𝕁J𝕂K𝕃L𝕄M𝕆O𝕊S𝕋T𝕌U𝕍V𝕎W𝕏X𝕐Y𝕒a𝕓b𝕔c𝕕d𝕖e𝕗f𝕘g",
   "𝕙h𝕚i𝕛j𝕜k𝕝l𝕞m𝕟n𝕠o𝕡p𝕢q𝕣r𝕤s𝕥t𝕦u𝕧v𝕨w𝕩x𝕪y𝕫z𝕬A𝕭B𝕮C𝕯D𝕰E𝕱F𝕲G𝕳H𝕴I",
   "𝕵J𝕶K𝕷L𝕸M𝕹N𝕺O𝕻P𝕼Q𝕽R𝕾S𝕿T𝖀U𝖁V𝖂W𝖃X𝖄Y𝖅Z𝖆a𝖇b𝖈c𝖉d𝖊e𝖋f𝖌g𝖍h𝖎i𝖏j𝖐k",
   "𝖑l𝖒m𝖓n𝖔o𝖕p𝖖q𝖗r𝖘s𝖙t𝖚u𝖛v𝖜w𝖝x𝖞y𝖟z𝖠A𝖡B𝖢C𝖣D𝖤E𝖥F𝖦G𝖧H𝖨I𝖩J𝖪K𝖫L𝖬M",
   "𝖭N𝖮O𝖯P𝖰Q𝖱R𝖲S𝖳T𝖴U𝖵V𝖶W𝖷X𝖸Y𝖹Z𝖺a𝖻b𝖼c𝖽d𝖾e𝖿f𝗀g𝗁h𝗂i𝗃j𝗄k𝗅l𝗆m𝗇n𝗈o",
   "𝗉p𝗊q𝗋r𝗌s𝗍t𝗎u𝗏v𝗐w𝗑x𝗒y𝗓z𝗔A𝗕B𝗖C𝗗D𝗘E𝗙F𝗚G𝗛H𝗜I𝗝J𝗞K𝗟L𝗠M𝗡N𝗢O𝗣P𝗤Q",
   "𝗥R𝗦S𝗧T𝗨U𝗩V𝗪W𝗫X𝗬Y𝗭Z𝗮a𝗯b𝗰c𝗱d𝗲e𝗳f𝗴g𝗵h𝗶i𝗷j𝗸k𝗹l𝗺m𝗻n𝗼o𝗽p𝗾q𝗿r𝘀s",
   "𝘁t𝘂u𝘃v𝘄w𝘅x𝘆y𝘇z𝘈A𝘉B𝘊C𝘋D𝘌E𝘍F𝘎G𝘏H𝘐I𝘑J𝘒K𝘓L𝘔M𝘕N𝘖O𝘗P𝘘Q𝘙R𝘚S𝘛T𝘜U",
   "𝘝V𝘞W𝘟X𝘠Y𝘡Z𝘢a𝘣b𝘤c𝘥d𝘦e𝘧f𝘨g𝘩h𝘪i𝘫j𝘬k𝘭l𝘮m𝘯n𝘰o𝘱p𝘲q𝘳r𝘴s𝘵t𝘶u𝘷v𝘸w",
   "𝘹x𝘺y𝘻z𝘼A𝘽B𝘾C𝘿D𝙀E𝙁F𝙂G𝙃H𝙄I𝙅J𝙆K𝙇L𝙈M𝙉N𝙊O𝙋P𝙌Q𝙍R𝙎S𝙏T𝙐U𝙑V𝙒W𝙓X𝙔Y",
   "𝙕Z𝙖a𝙗b𝙘c𝙙d𝙚e𝙛f𝙜g𝙝h𝙞i𝙟j𝙠k𝙡l𝙢m𝙣n𝙤o𝙥p𝙦q𝙧r𝙨s𝙩t𝙪u𝙫v𝙬w𝙭x𝙮y𝙯z𝙰A",
   "𝙱B𝙲C𝙳D𝙴E𝙵F𝙶G𝙷H𝙸I𝙹J𝙺K𝙻L𝙼M𝙽N𝙾O𝙿P𝚀Q𝚁R𝚂S𝚃T𝚄U𝚅V𝚆W𝚇X𝚈Y𝚉Z𝚊a𝚋b𝚌c",
   "𝚍d𝚎e𝚏f𝚐g𝚑h𝚒i𝚓j𝚔k𝚕l𝚖m𝚗n𝚘o𝚙p𝚚q𝚛r𝚜s𝚝t𝚞u𝚟v𝚠w𝚡x𝚢y𝚣z𝚤ı𝚥ȷ𝚨Α𝚩Β𝚪Γ",
   "𝚫Δ𝚬Ε𝚭Ζ𝚮Η𝚯Θ𝚰Ι𝚱Κ𝚲Λ𝚳Μ𝚴Ν𝚵Ξ𝚶Ο𝚷Π𝚸Ρ𝚹Θ𝚺Σ𝚻Τ𝚼Υ𝚽Φ𝚾Χ𝚿Ψ𝛀Ω𝛂α𝛃β𝛄γ𝛅δ𝛆ε𝛇ζ",
   "𝛈η𝛉θ𝛊ι𝛋κ𝛌λ𝛍μ𝛎ν𝛏ξ𝛐ο𝛑π𝛒ρ𝛓ς𝛔σ𝛕τ𝛖υ𝛗φ𝛘χ𝛙ψ𝛚ω𝛜ε𝛝θ𝛞κ𝛟φ𝛠ρ𝛡π𝛢Α𝛣Β𝛤Γ",
   "𝛥Δ𝛦Ε𝛧Ζ𝛨Η𝛩Θ𝛪Ι𝛫Κ𝛬Λ𝛭Μ𝛮Ν𝛯Ξ𝛰Ο𝛱Π𝛲Ρ𝛳Θ𝛴Σ𝛵Τ𝛶Υ𝛷Φ𝛸Χ𝛹Ψ𝛺Ω𝛼α𝛽β𝛾γ𝛿δ𝜀ε𝜁ζ",
   "𝜂η𝜃θ𝜄ι𝜅κ𝜆λ𝜇μ𝜈ν𝜉ξ𝜊ο𝜋π𝜌ρ𝜍ς𝜎σ𝜏τ𝜐υ𝜑φ𝜒χ𝜓ψ𝜔ω𝜖ε𝜗θ𝜘κ𝜙φ𝜚ρ𝜛π𝜜Α𝜝Β𝜞Γ",
   "𝜟Δ𝜠Ε𝜡Ζ𝜢Η𝜣Θ𝜤Ι𝜥Κ𝜦Λ𝜧Μ𝜨Ν𝜩Ξ𝜪Ο𝜫Π𝜬Ρ𝜭Θ𝜮Σ𝜯Τ𝜰Υ𝜱Φ𝜲Χ𝜳Ψ𝜴Ω𝜶α𝜷β𝜸γ𝜹δ𝜺ε𝜻ζ",
   "𝜼η𝜽θ𝜾ι𝜿κ𝝀λ𝝁μ𝝂ν𝝃ξ𝝄ο𝝅π𝝆ρ𝝇ς𝝈σ𝝉τ𝝊υ𝝋φ𝝌χ𝝍ψ𝝎ω𝝐ε𝝑θ𝝒κ𝝓φ𝝔ρ𝝕π𝝖Α𝝗Β𝝘Γ",
   "𝝙Δ𝝚Ε𝝛Ζ𝝜Η𝝝Θ𝝞Ι𝝟Κ𝝠Λ𝝡Μ𝝢Ν𝝣Ξ𝝤Ο𝝥Π𝝦Ρ𝝧Θ𝝨Σ𝝩Τ𝝪Υ𝝫Φ𝝬Χ𝝭Ψ𝝮Ω𝝰α𝝱β𝝲γ𝝳δ𝝴ε𝝵ζ",
   "𝝶η𝝷θ𝝸ι𝝹κ𝝺λ𝝻μ𝝼ν𝝽ξ𝝾ο𝝿π𝞀ρ𝞁ς𝞂σ𝞃τ𝞄υ𝞅φ𝞆χ𝞇ψ𝞈ω𝞊ε𝞋θ𝞌κ𝞍φ𝞎ρ𝞏π𝞐Α𝞑Β𝞒Γ",
   "𝞓Δ𝞔Ε𝞕Ζ𝞖Η𝞗Θ𝞘Ι𝞙Κ𝞚Λ𝞛Μ𝞜Ν𝞝Ξ𝞞Ο𝞟Π𝞠Ρ𝞡Θ𝞢Σ𝞣Τ𝞤Υ𝞥Φ𝞦Χ𝞧Ψ𝞨Ω𝞪α𝞫β𝞬γ𝞭δ𝞮ε𝞯ζ",
   "𝞰η𝞱θ𝞲ι𝞳κ𝞴λ𝞵μ𝞶ν𝞷ξ𝞸ο𝞹π𝞺ρ𝞻ς𝞼σ𝞽τ𝞾υ𝞿φ𝟀χ𝟁ψ𝟂ω𝟄ε𝟅θ𝟆κ𝟇φ𝟈ρ𝟉π𝟊Ϝ𝟋ϝ𝟎0",
   "𝟏1𝟐2𝟑3𝟒4𝟓5𝟔6𝟕7𝟖8𝟗9𝟘0𝟙1𝟚2𝟛3𝟜4𝟝5𝟞6𝟟7𝟠8𝟡9𝟢0𝟣1𝟤2𝟥3𝟦4𝟧5𝟨6𝟩7𝟪8",
   "𝟫9𝟬0𝟭1𝟮2𝟯3𝟰4𝟱5𝟲6𝟳7𝟴8𝟵9𝟶0𝟷1𝟸2𝟹3𝟺4𝟻5𝟼6𝟽7𝟾8𝟿9𞸀ا𞸁ب𞸂ج𞸃د𞸅و𞸆ز𞸇ح",
   "𞸈ط𞸉ي𞸊ك𞸋ل𞸌م𞸍ن𞸎س𞸏ع𞸐ف𞸑ص𞸒ق𞸓ر𞸔ش𞸕ت𞸖ث𞸗خ𞸘ذ𞸙ض𞸚ظ𞸛غ𞸜ٮ𞸝ں𞸞ڡ𞸟ٯ𞸡ب𞸢ج𞸤ه𞸧ح",
   "𞸩ي𞸪ك𞸫ل𞸬م𞸭ن𞸮س𞸯ع𞸰ف𞸱ص𞸲ق𞸴ش𞸵ت𞸶ث𞸷خ𞸹ض𞸻غ𞹂ج𞹇ح𞹉ي𞹋ل𞹍ن𞹎س𞹏ع𞹑ص𞹒ق𞹔ش𞹗خ𞹙ض",
   "𞹛غ𞹝ں𞹟ٯ𞹡ب𞹢ج𞹤ه𞹧ح𞹨ط𞹩ي𞹪ك𞹬م𞹭ن𞹮س𞹯ع𞹰ف𞹱ص𞹲ق𞹴ش𞹵ت𞹶ث𞹷خ𞹹ض𞹺ظ𞹻غ𞹼ٮ𞹾ڡ𞺀ا𞺁ب",
   "𞺂ج𞺃د𞺄ه𞺅و𞺆ز𞺇ح𞺈ط𞺉ي𞺋ل𞺌م𞺍ن𞺎س𞺏ع𞺐ف𞺑ص𞺒ق𞺓ر𞺔ش𞺕ت𞺖ث𞺗خ𞺘ذ𞺙ض𞺚ظ𞺛غ𞺡ب𞺢ج𞺣د",
   "𞺥و𞺦ز𞺧ح𞺨ط𞺩ي𞺫ل𞺬م𞺭ن𞺮س𞺯ع𞺰ف𞺱ص𞺲ق𞺳ر𞺴ش𞺵ت𞺶ث𞺷خ𞺸ذ𞺹ض𞺺ظ𞺻غ🯰0🯱1🯲2🯳3🯴4🯵5",
   "🯶6🯷7🯸8🯹9丽丽丸丸乁乁𠄢𠄢你你侮侮侻侻倂倂偺偺備備僧僧像像㒞㒞𠘺𠘺免免兔兔兤兤具具𠔜𠔜㒹㒹內內再再𠕋𠕋冗冗",
   "冤冤仌仌冬冬况况𩇟𩇟凵凵刃刃㓟㓟刻刻剆剆割割剷剷㔕㔕勇勇勉勉勤勤勺勺包包匆匆北北卉卉卑卑博博即即卽卽卿卿卿卿卿卿",
   "𠨬𠨬灰灰及及叟叟𠭣𠭣叫叫叱叱吆吆咞咞吸吸呈呈周周咢咢哶哶唐唐啓啓啣啣善善善善喙喙喫喫喳喳嗂嗂圖圖嘆嘆圗圗噑噑噴噴",
   "切切壮壮城城埴埴堍堍型型堲堲報報墬墬𡓤𡓤売売壷壷夆夆多多夢夢奢奢𡚨𡚨𡛪𡛪姬姬娛娛娧娧姘姘婦婦㛮㛮㛼㛼嬈嬈嬾嬾嬾嬾",
   "𡧈𡧈寃寃寘寘寧寧寳寳𡬘𡬘寿寿将将当当尢尢㞁㞁屠屠屮屮峀峀岍岍𡷤𡷤嵃嵃𡷦𡷦嵮嵮嵫嵫嵼嵼巡巡巢巢㠯㠯巽巽帨帨帽帽幩幩",
   "㡢㡢𢆃𢆃㡼㡼庰庰庳庳庶庶廊廊𪎒𪎒廾廾𢌱𢌱𢌱𢌱舁舁弢弢弢弢㣇㣇𣊸𣊸𦇚𦇚形形彫彫㣣㣣徚徚忍忍志志忹忹悁悁㤺㤺㤜㤜悔悔",
   "𢛔𢛔惇惇慈慈慌慌慎慎慌慌慺慺憎憎憲憲憤憤憯憯懞懞懲懲懶懶成成戛戛扝扝抱抱拔拔捐捐𢬌𢬌挽挽拼拼捨捨掃掃揤揤𢯱𢯱搢搢",
   "揅揅掩掩㨮㨮摩摩摾摾撝撝摷摷㩬㩬敏敏敬敬𣀊𣀊旣旣書書晉晉㬙㬙暑暑㬈㬈㫤㫤冒冒冕冕最最暜暜肭肭䏙䏙朗朗望望朡朡杞杞",
   "杓杓𣏃𣏃㭉㭉柺柺枅枅桒桒梅梅𣑭𣑭梎梎栟栟椔椔㮝㮝楂楂榣榣槪槪檨檨𣚣𣚣櫛櫛㰘㰘次次𣢧𣢧歔歔㱎㱎歲歲殟殟殺殺殻殻𣪍𣪍",
   "𡴋𡴋𣫺𣫺汎汎𣲼𣲼沿沿泍泍汧汧洖洖派派海海流流浩浩浸浸涅涅𣴞𣴞洴洴港港湮湮㴳㴳滋滋滇滇𣻑𣻑淹淹潮潮𣽞𣽞𣾎𣾎濆濆瀹瀹",
   "瀞瀞瀛瀛㶖㶖灊灊災災灷灷炭炭𠔥𠔥煅煅𤉣𤉣熜熜𤎫𤎫爨爨爵爵牐牐𤘈𤘈犀犀犕犕𤜵𤜵𤠔𤠔獺獺王王㺬㺬玥玥㺸㺸㺸㺸瑇瑇瑜瑜",
   "瑱瑱璅璅瓊瓊㼛㼛甤甤𤰶𤰶甾甾𤲒𤲒異異𢆟𢆟瘐瘐𤾡𤾡𤾸𤾸𥁄𥁄㿼㿼䀈䀈直直𥃳𥃳𥃲𥃲𥄙𥄙𥄳𥄳眞眞真真真真睊睊䀹䀹瞋瞋䁆䁆",
   "䂖䂖𥐝𥐝硎硎碌碌磌磌䃣䃣𥘦𥘦祖祖𥚚𥚚𥛅𥛅福福秫秫䄯䄯穀穀穊穊穏穏𥥼𥥼𥪧𥪧𥪧𥪧竮竮䈂䈂𥮫𥮫篆篆築築䈧䈧𥲀𥲀糒糒䊠䊠",
   "糨糨糣糣紀紀𥾆𥾆絣絣䌁䌁緇緇縂縂繅繅䌴䌴𦈨𦈨𦉇𦉇䍙䍙𦋙𦋙罺罺𦌾𦌾羕羕翺翺者者𦓚𦓚𦔣𦔣聠聠𦖨𦖨聰聰𣍟𣍟䏕䏕育育脃脃",
   "䐋䐋脾脾媵媵𦞧𦞧𦞵𦞵𣎓𣎓𣎜𣎜舁舁舄舄辞辞䑫䑫芑芑芋芋芝芝劳劳花花芳芳芽芽苦苦𦬼𦬼若若茝茝荣荣莭莭茣茣莽莽菧菧著著",
   "荓荓菊菊菌菌菜菜𦰶𦰶𦵫𦵫𦳕𦳕䔫䔫蓱蓱蓳蓳蔖蔖𧏊𧏊蕤蕤𦼬𦼬䕝䕝䕡䕡𦾱𦾱𧃒𧃒䕫䕫虐虐虜虜虧虧虩虩蚩蚩蚈蚈蜎蜎蛢蛢蝹蝹",
   "蜨蜨蝫蝫螆螆䗗䗗蟡蟡蠁蠁䗹䗹衠衠衣衣𧙧𧙧裗裗裞裞䘵䘵裺裺㒻㒻𧢮𧢮𧥦𧥦䚾䚾䛇䛇誠誠諭諭變變豕豕𧲨𧲨貫貫賁賁贛贛起起",
   "𧼯𧼯𠠄𠠄跋跋趼趼跰跰𠣞𠣞軔軔輸輸𨗒𨗒𨗭𨗭邔邔郱郱鄑鄑𨜮𨜮鄛鄛鈸鈸鋗鋗鋘鋘鉼鉼鏹鏹鐕鐕𨯺𨯺開開䦕䦕閷閷𨵷𨵷䧦䧦雃雃",
   "嶲嶲霣霣𩅅𩅅𩈚𩈚䩮䩮䩶䩶韠韠𩐊𩐊䪲䪲𩒖𩒖頋頋頋頋頩頩𩖶𩖶飢飢䬳䬳餩餩馧馧駂駂駾駾䯎䯎𩬰𩬰鬒鬒鱀鱀鳽鳽䳎䳎䳭䳭鵧鵧",
   "𪃎𪃎䳸䳸𪄅𪄅𪈎𪈎𪊑𪊑麻麻䵖䵖黹黹黾黾鼅鼅鼏鼏鼖鼖鼻鼻𪘀𪘀"]

/-- Groups that end in a space: a character, and the several that it stands for. -/
def expansions : List String :=
  ["ĲIJ ĳij ĿL· ŀl· ŉʼn ǄDŽ ǅDž ǆdž ǇLJ ǈLj ǉlj ǊNJ ǋNj ",
   "ǌnj ǱDZ ǲDz ǳdz ̈́̈́ ևեւ ٵاٴ ٶوٴ ٷۇٴ ٸيٴ क़क़ ख़ख़ ग़ग़ ज़ज़ ",
   "ड़ड़ ढ़ढ़ फ़फ़ य़य़ ড়ড় ঢ়ঢ় য়য় ਲ਼ਲ਼ ਸ਼ਸ਼ ਖ਼ਖ਼ ਗ਼ਗ਼ ਜ਼ਜ਼ ਫ਼ਫ਼ ଡ଼ଡ଼ ",
   "ଢ଼ଢ଼ ำํา ຳໍາ ໜຫນ ໝຫມ གྷགྷ ཌྷཌྷ དྷདྷ བྷབྷ ཛྷཛྷ ཀྵཀྵ ཱཱིི ཱཱུུ ྲྀྲྀ ",
   "ཷྲཱྀ ླྀླྀ ཹླཱྀ ཱཱྀྀ ྒྷྒྷ ྜྷྜྷ ྡྷྡྷ ྦྷྦྷ ྫྷྫྷ ྐྵྐྵ ẚaʾ άά έέ ",
   "ήή ίί όό ύύ ώώ ΆΆ ΈΈ ΉΉ ΐΐ ΊΊ ΰΰ ΎΎ ΌΌ ",
   "ΏΏ ÅÅ ⅡII ⅢIII ⅣIV ⅥVI ⅦVII ⅧVIII ⅨIX ⅪXI ⅫXII ⅱii ",
   "ⅲiii ⅳiv ⅵvi ⅶvii ⅷviii ⅸix ⅺxi ⅻxii ゟより ヿコト ﬀff ﬁfi ",
   "ﬂfl ﬃffi ﬄffl ﬅst ﬆst ﬓմն ﬔմե ﬕմի ﬖվն ﬗմխ יִיִ ײַײַ שׁשׁ ",
   "שׂשׂ שּׁשּׁ שּׂשּׂ אַאַ אָאָ אּאּ בּבּ גּגּ דּדּ הּהּ וּוּ זּזּ טּטּ ",
   "יּיּ ךּךּ כּכּ לּלּ מּמּ נּנּ סּסּ ףּףּ פּפּ צּצּ קּקּ רּרּ שּשּ תּתּ ",
   "וֹוֹ בֿבֿ כֿכֿ פֿפֿ ﭏאל ﮤۀ ﮥۀ ﮰۓ ﮱۓ ﯝۇٴ ﯪئا ﯫئا ﯬئە ",
   "ﯭئە ﯮئو ﯯئو ﯰئۇ ﯱئۇ ﯲئۆ ﯳئۆ ﯴئۈ ﯵئۈ ﯶئې ﯷئې ",
   "ﯸئې ﯹئى ﯺئى ﯻئى ﰀئج ﰁئح ﰂئم ﰃئى ﰄئي ﰅبج ﰆبح ",
   "ﰇبخ ﰈبم ﰉبى ﰊبي ﰋتج ﰌتح ﰍتخ ﰎتم ﰏتى ﰐتي ﰑثج ﰒثم ﰓثى ﰔثي ",
   "ﰕجح ﰖجم ﰗحج ﰘحم ﰙخج ﰚخح ﰛخم ﰜسج ﰝسح ﰞسخ ﰟسم ﰠصح ﰡصم ﰢضج ",
   "ﰣضح ﰤضخ ﰥضم ﰦطح ﰧطم ﰨظم ﰩعج ﰪعم ﰫغج ﰬغم ﰭفج ﰮفح ﰯفخ ﰰفم ",
   "ﰱفى ﰲفي ﰳقح ﰴقم ﰵقى ﰶقي ﰷكا ﰸكج ﰹكح ﰺكخ ﰻكل ﰼكم ﰽكى ﰾكي ",
   "ﰿلج ﱀلح ﱁلخ ﱂلم ﱃلى ﱄلي ﱅمج ﱆمح ﱇمخ ﱈمم ﱉمى ﱊمي ﱋنج ﱌنح ",
   "ﱍنخ ﱎنم ﱏنى ﱐني ﱑهج ﱒهم ﱓهى ﱔهي ﱕيج ﱖيح ﱗيخ ﱘيم ﱙيى ﱚيي ",
   "ﱛذٰ ﱜرٰ ﱝىٰ ﱤئر ﱥئز ﱦئم ﱧئن ﱨئى ﱩئي ﱪبر ﱫبز ﱬبم ",
   "ﱭبن ﱮبى ﱯبي ﱰتر ﱱتز ﱲتم ﱳتن ﱴتى ﱵتي ﱶثر ﱷثز ﱸثم ﱹثن ﱺثى ",
   "ﱻثي ﱼفى ﱽفي ﱾقى ﱿقي ﲀكا ﲁكل ﲂكم ﲃكى ﲄكي ﲅلم ﲆلى ﲇلي ﲈما ",
   "ﲉمم ﲊنر ﲋنز ﲌنم ﲍنن ﲎنى ﲏني ﲐىٰ ﲑير ﲒيز ﲓيم ﲔين ﲕيى ﲖيي ",
   "ﲗئج ﲘئح ﲙئخ ﲚئم ﲛئه ﲜبج ﲝبح ﲞبخ ﲟبم ﲠبه ﲡتج ﲢتح ",
   "ﲣتخ ﲤتم ﲥته ﲦثم ﲧجح ﲨجم ﲩحج ﲪحم ﲫخج ﲬخم ﲭسج ﲮسح ﲯسخ ﲰسم ",
   "ﲱصح ﲲصخ ﲳصم ﲴضج ﲵضح ﲶضخ ﲷضم ﲸطح ﲹظم ﲺعج ﲻعم ﲼغج ﲽغم ﲾفج ",
   "ﲿفح ﳀفخ ﳁفم ﳂقح ﳃقم ﳄكج ﳅكح ﳆكخ ﳇكل ﳈكم ﳉلج ﳊلح ﳋلخ ﳌلم ",
   "ﳍله ﳎمج ﳏمح ﳐمخ ﳑمم ﳒنج ﳓنح ﳔنخ ﳕنم ﳖنه ﳗهج ﳘهم ﳙهٰ ﳚيج ",
   "ﳛيح ﳜيخ ﳝيم ﳞيه ﳟئم ﳠئه ﳡبم ﳢبه ﳣتم ﳤته ﳥثم ﳦثه ﳧسم ",
   "ﳨسه ﳩشم ﳪشه ﳫكل ﳬكم ﳭلم ﳮنم ﳯنه ﳰيم ﳱيه ﳲـَّ ﳳـُّ ﳴـِّ ",
   "ﳵطى ﳶطي ﳷعى ﳸعي ﳹغى ﳺغي ﳻسى ﳼسي ﳽشى ﳾشي ﳿحى ﴀحي ﴁجى ﴂجي ",
   "ﴃخى ﴄخي ﴅصى ﴆصي ﴇضى ﴈضي ﴉشج ﴊشح ﴋشخ ﴌشم ﴍشر ﴎسر ﴏصر ﴐضر ",
   "ﴑطى ﴒطي ﴓعى ﴔعي ﴕغى ﴖغي ﴗسى ﴘسي ﴙشى ﴚشي ﴛحى ﴜحي ﴝجى ﴞجي ",
   "ﴟخى ﴠخي ﴡصى ﴢصي ﴣضى ﴤضي ﴥشج ﴦشح ﴧشخ ﴨشم ﴩشر ﴪسر ﴫصر ﴬضر ",
   "ﴭشج ﴮشح ﴯشخ ﴰشم ﴱسه ﴲشه ﴳطم ﴴسج ﴵسح ﴶسخ ﴷشج ﴸشح ﴹشخ ﴺطم ",
   "ﴻظم ﴼاً ﴽاً ﵐتجم ﵑتحج ﵒتحج ﵓتحم ﵔتخم ﵕتمج ﵖتمح ﵗتمخ ",
   "ﵘجمح ﵙجمح ﵚحمي ﵛحمى ﵜسحج ﵝسجح ﵞسجى ﵟسمح ﵠسمح ﵡسمج ﵢسمم ",
   "ﵣسمم ﵤصحح ﵥصحح ﵦصمم ﵧشحم ﵨشحم ﵩشجي ﵪشمخ ﵫشمخ ﵬشمم ﵭشمم ",
   "ﵮضحى ﵯضخم ﵰضخم ﵱطمح ﵲطمح ﵳطمم ﵴطمي ﵵعجم ﵶعمم ﵷعمم ﵸعمى ",
   "ﵹغمم ﵺغمي ﵻغمى ﵼفخم ﵽفخم ﵾقمح ﵿقمم ﶀلحم ﶁلحي ﶂلحى ﶃلجج ",
   "ﶄلجج ﶅلخم ﶆلخم ﶇلمح ﶈلمح ﶉمحج ﶊمحم ﶋمحي ﶌمجح ﶍمجم ﶎمخج ",
   "ﶏمخم ﶒمجخ ﶓهمج ﶔهمم ﶕنحم ﶖنحى ﶗنجم ﶘنجم ﶙنجى ﶚنمي ﶛنمى ",
   "ﶜيمم ﶝيمم ﶞبخي ﶟتجي ﶠتجى ﶡتخي ﶢتخى ﶣتمي ﶤتمى ﶥجمي ﶦجحى ",
   "ﶧجمى ﶨسخى ﶩصحي ﶪشحي ﶫضحي ﶬلجي ﶭلمي ﶮيحي ﶯيجي ﶰيمي ﶱممي ",
   "ﶲقمي ﶳنحي ﶴقمح ﶵلحم ﶶعمي ﶷكمي ﶸنجح ﶹمخي ﶺلجم ﶻكمم ﶼلجم ",
   "ﶽنجح ﶾجحي ﶿحجي ﷀمجي ﷁفمي ﷂبحي ﷃكمم ﷄعجم ﷅصمم ﷆسخي ﷇنجي ",
   "ﷰصلے ﷱقلے ﷲالله ﷳاكبر ﷴمحمد ﷵصلعم ﷶرسول ﷷعليه ﷸوسلم ",
   "ﷹصلى ﹱـً ﹷـَ ﹹـُ ﹻـِ ﹽـّ ﹿـْ ﺁآ ﺂآ ﺃأ ﺄأ ﺅؤ ﺆؤ ",
   "ﺇإ ﺈإ ﺉئ ﺊئ ﺋئ ﺌئ ﻵلآ ﻶلآ ﻷلأ ﻸلأ ﻹلإ ﻺلإ ",
   "ﻻلا ﻼلا "]

/-- The class of combining marks, by ranges of code points; marks of a higher class are written
after those of a lower one. -/
def markClasses : List (Nat × Nat × Nat) :=
  [(0x300, 0x314, 230), (0x315, 0x315, 232), (0x316, 0x319, 220), (0x31a, 0x31a, 232),
   (0x31b, 0x31b, 216), (0x31c, 0x320, 220), (0x321, 0x322, 202), (0x323, 0x326, 220),
   (0x327, 0x328, 202), (0x329, 0x333, 220), (0x334, 0x338, 1), (0x339, 0x33c, 220),
   (0x33d, 0x344, 230), (0x345, 0x345, 240), (0x346, 0x346, 230), (0x347, 0x349, 220),
   (0x34a, 0x34c, 230), (0x34d, 0x34e, 220), (0x350, 0x352, 230), (0x353, 0x356, 220),
   (0x357, 0x357, 230), (0x358, 0x358, 232), (0x359, 0x35a, 220), (0x35b, 0x35b, 230),
   (0x35c, 0x35c, 233), (0x35d, 0x35e, 234), (0x35f, 0x35f, 233), (0x360, 0x361, 234),
   (0x362, 0x362, 233), (0x363, 0x36f, 230), (0x483, 0x487, 230), (0x591, 0x591, 220),
   (0x592, 0x595, 230), (0x596, 0x596, 220), (0x597, 0x599, 230), (0x59a, 0x59a, 222),
   (0x59b, 0x59b, 220), (0x59c, 0x5a1, 230), (0x5a2, 0x5a7, 220), (0x5a8, 0x5a9, 230),
   (0x5aa, 0x5aa, 220), (0x5ab, 0x5ac, 230), (0x5ad, 0x5ad, 222), (0x5ae, 0x5ae, 228),
   (0x5af, 0x5af, 230), (0x5b0, 0x5b0, 10), (0x5b1, 0x5b1, 11), (0x5b2, 0x5b2, 12),
   (0x5b3, 0x5b3, 13), (0x5b4, 0x5b4, 14), (0x5b5, 0x5b5, 15), (0x5b6, 0x5b6, 16),
   (0x5b7, 0x5b7, 17), (0x5b8, 0x5b8, 18), (0x5b9, 0x5ba, 19), (0x5bb, 0x5bb, 20),
   (0x5bc, 0x5bc, 21), (0x5bd, 0x5bd, 22), (0x5bf, 0x5bf, 23), (0x5c1, 0x5c1, 24),
   (0x5c2, 0x5c2, 25), (0x5c4, 0x5c4, 230), (0x5c5, 0x5c5, 220), (0x5c7, 0x5c7, 18),
   (0x610, 0x617, 230), (0x618, 0x618, 30), (0x619, 0x619, 31), (0x61a, 0x61a, 32),
   (0x64b, 0x64b, 27), (0x64c, 0x64c, 28), (0x64d, 0x64d, 29), (0x64e, 0x64e, 30),
   (0x64f, 0x64f, 31), (0x650, 0x650, 32), (0x651, 0x651, 33), (0x652, 0x652, 34),
   (0x653, 0x654, 230), (0x655, 0x656, 220), (0x657, 0x65b, 230), (0x65c, 0x65c, 220),
   (0x65d, 0x65e, 230), (0x65f, 0x65f, 220), (0x670, 0x670, 35), (0x6d6, 0x6dc, 230),
   (0x6df, 0x6e2, 230), (0x6e3, 0x6e3, 220), (0x6e4, 0x6e4, 230), (0x6e7, 0x6e8, 230),
   (0x6ea, 0x6ea, 220), (0x6eb, 0x6ec, 230), (0x6ed, 0x6ed, 220), (0x711, 0x711, 36),
   (0x730, 0x730, 230), (0x731, 0x731, 220), (0x732, 0x733, 230), (0x734, 0x734, 220),
   (0x735, 0x736, 230), (0x737, 0x739, 220), (0x73a, 0x73a, 230), (0x73b, 0x73c, 220),
   (0x73d, 0x73d, 230), (0x73e, 0x73e, 220), (0x73f, 0x741, 230), (0x742, 0x742, 220),
   (0x743, 0x743, 230), (0x744, 0x744, 220), (0x745, 0x745, 230), (0x746, 0x746, 220),
   (0x747, 0x747, 230), (0x748, 0x748, 220), (0x749, 0x74a, 230), (0x7eb, 0x7f1, 230),
   (0x7f2, 0x7f2, 220), (0x7f3, 0x7f3, 230), (0x7fd, 0x7fd, 220), (0x816, 0x819, 230),
   (0x81b, 0x823, 230), (0x825, 0x827, 230), (0x829, 0x82d, 230), (0x859, 0x85b, 220),
   (0x898, 0x898, 230), (0x899, 0x89b, 220), (0x89c, 0x89f, 230), (0x8ca, 0x8ce, 230),
   (0x8cf, 0x8d3, 220), (0x8d4, 0x8e1, 230), (0x8e3, 0x8e3, 220), (0x8e4, 0x8e5, 230),
   (0x8e6, 0x8e6, 220), (0x8e7, 0x8e8, 230), (0x8e9, 0x8e9, 220), (0x8ea, 0x8ec, 230),
   (0x8ed, 0x8ef, 220), (0x8f0, 0x8f0, 27), (0x8f1, 0x8f1, 28), (0x8f2, 0x8f2, 29),
   (0x8f3, 0x8f5, 230), (0x8f6, 0x8f6, 220), (0x8f7, 0x8f8, 230), (0x8f9, 0x8fa, 220),
   (0x8fb, 0x8ff, 230), (0x93c, 0x93c, 7), (0x94d, 0x94d, 9), (0x951, 0x951, 230),
   (0x952, 0x952, 220), (0x953, 0x954, 230), (0x9bc, 0x9bc, 7), (0x9cd, 0x9cd, 9),
   (0x9fe, 0x9fe, 230), (0xa3c, 0xa3c, 7), (0xa4d, 0xa4d, 9), (0xabc, 0xabc, 7), (0xacd, 0xacd, 9),
   (0xb3c, 0xb3c, 7), (0xb4d, 0xb4d, 9), (0xbcd, 0xbcd, 9), (0xc3c, 0xc3c, 7), (0xc4d, 0xc4d, 9),
   (0xc55, 0xc55, 84), (0xc56, 0xc56, 91), (0xcbc, 0xcbc, 7), (0xccd, 0xccd, 9), (0xd3b, 0xd3c, 9),
   (0xd4d, 0xd4d, 9), (0xdca, 0xdca, 9), (0xe38, 0xe39, 103), (0xe3a, 0xe3a, 9),
   (0xe48, 0xe4b, 107), (0xeb8, 0xeb9, 118), (0xeba, 0xeba, 9), (0xec8, 0xecb, 122),
   (0xf18, 0xf19, 220), (0xf35, 0xf35, 220), (0xf37, 0xf37, 220), (0xf39, 0xf39, 216),
   (0xf71, 0xf71, 129), (0xf72, 0xf72, 130), (0xf74, 0xf74, 132), (0xf7a, 0xf7d, 130),
   (0xf80, 0xf80, 130), (0xf82, 0xf83, 230), (0xf84, 0xf84, 9), (0xf86, 0xf87, 230),
   (0xfc6, 0xfc6, 220), (0x1037, 0x1037, 7), (0x1039, 0x103a, 9), (0x108d, 0x108d, 220),
   (0x135d, 0x135f, 230), (0x1714, 0x1715, 9), (0x1734, 0x1734, 9), (0x17d2, 0x17d2, 9),
   (0x17dd, 0x17dd, 230), (0x18a9, 0x18a9, 228), (0x1939, 0x1939, 222), (0x193a, 0x193a, 230),
   (0x193b, 0x193b, 220), (0x1a17, 0x1a17, 230), (0x1a18, 0x1a18, 220), (0x1a60, 0x1a60, 9),
   (0x1a75, 0x1a7c, 230), (0x1a7f, 0x1a7f, 220), (0x1ab0, 0x1ab4, 230), (0x1ab5, 0x1aba, 220),
   (0x1abb, 0x1abc, 230), (0x1abd, 0x1abd, 220), (0x1abf, 0x1ac0, 220), (0x1ac1, 0x1ac2, 230),
   (0x1ac3, 0x1ac4, 220), (0x1ac5, 0x1ac9, 230), (0x1aca, 0x1aca, 220), (0x1acb, 0x1ace, 230),
   (0x1b34, 0x1b34, 7), (0x1b44, 0x1b44, 9), (0x1b6b, 0x1b6b, 230), (0x1b6c, 0x1b6c, 220),
   (0x1b6d, 0x1b73, 230), (0x1baa, 0x1bab, 9), (0x1be6, 0x1be6, 7), (0x1bf2, 0x1bf3, 9),
   (0x1c37, 0x1c37, 7), (0x1cd0, 0x1cd2, 230), (0x1cd4, 0x1cd4, 1), (0x1cd5, 0x1cd9, 220),
   (0x1cda, 0x1cdb, 230), (0x1cdc, 0x1cdf, 220), (0x1ce0, 0x1ce0, 230), (0x1ce2, 0x1ce8, 1),
   (0x1ced, 0x1ced, 220), (0x1cf4, 0x1cf4, 230), (0x1cf8, 0x1cf9, 230), (0x1dc0, 0x1dc1, 230),
   (0x1dc2, 0x1dc2, 220), (0x1dc3, 0x1dc9, 230), (0x1dca, 0x1dca, 220), (0x1dcb, 0x1dcc, 230),
   (0x1dcd, 0x1dcd, 234), (0x1dce, 0x1dce, 214), (0x1dcf, 0x1dcf, 220), (0x1dd0, 0x1dd0, 202),
   (0x1dd1, 0x1df5, 230), (0x1df6, 0x1df6, 232), (0x1df7, 0x1df8, 228), (0x1df9, 0x1df9, 220),
   (0x1dfa, 0x1dfa, 218), (0x1dfb, 0x1dfb, 230), (0x1dfc, 0x1dfc, 233), (0x1dfd, 0x1dfd, 220),
   (0x1dfe, 0x1dfe, 230), (0x1dff, 0x1dff, 220), (0x20d0, 0x20d1, 230), (0x20d2, 0x20d3, 1),
   (0x20d4, 0x20d7, 230), (0x20d8, 0x20da, 1), (0x20db, 0x20dc, 230), (0x20e1, 0x20e1, 230),
   (0x20e5, 0x20e6, 1), (0x20e7, 0x20e7, 230), (0x20e8, 0x20e8, 220), (0x20e9, 0x20e9, 230),
   (0x20ea, 0x20eb, 1), (0x20ec, 0x20ef, 220), (0x20f0, 0x20f0, 230), (0x2cef, 0x2cf1, 230),
   (0x2d7f, 0x2d7f, 9), (0x2de0, 0x2dff, 230), (0x302a, 0x302a, 218), (0x302b, 0x302b, 228),
   (0x302c, 0x302c, 232), (0x302d, 0x302d, 222), (0x302e, 0x302f, 224), (0x3099, 0x309a, 8),
   (0xa66f, 0xa66f, 230), (0xa674, 0xa67d, 230), (0xa69e, 0xa69f, 230), (0xa6f0, 0xa6f1, 230),
   (0xa806, 0xa806, 9), (0xa82c, 0xa82c, 9), (0xa8c4, 0xa8c4, 9), (0xa8e0, 0xa8f1, 230),
   (0xa92b, 0xa92d, 220), (0xa953, 0xa953, 9), (0xa9b3, 0xa9b3, 7), (0xa9c0, 0xa9c0, 9),
   (0xaab0, 0xaab0, 230), (0xaab2, 0xaab3, 230), (0xaab4, 0xaab4, 220), (0xaab7, 0xaab8, 230),
   (0xaabe, 0xaabf, 230), (0xaac1, 0xaac1, 230), (0xaaf6, 0xaaf6, 9), (0xabed, 0xabed, 9),
   (0xfb1e, 0xfb1e, 26), (0xfe20, 0xfe26, 230), (0xfe27, 0xfe2d, 220), (0xfe2e, 0xfe2f, 230),
   (0x101fd, 0x101fd, 220), (0x102e0, 0x102e0, 220), (0x10376, 0x1037a, 230),
   (0x10a0d, 0x10a0d, 220), (0x10a0f, 0x10a0f, 230), (0x10a38, 0x10a38, 230),
   (0x10a39, 0x10a39, 1), (0x10a3a, 0x10a3a, 220), (0x10a3f, 0x10a3f, 9), (0x10ae5, 0x10ae5, 230),
   (0x10ae6, 0x10ae6, 220), (0x10d24, 0x10d27, 230), (0x10eab, 0x10eac, 230),
   (0x10f46, 0x10f47, 220), (0x10f48, 0x10f4a, 230), (0x10f4b, 0x10f4b, 220),
   (0x10f4c, 0x10f4c, 230), (0x10f4d, 0x10f50, 220), (0x10f82, 0x10f82, 230),
   (0x10f83, 0x10f83, 220), (0x10f84, 0x10f84, 230), (0x10f85, 0x10f85, 220),
   (0x11046, 0x11046, 9), (0x11070, 0x11070, 9), (0x1107f, 0x1107f, 9), (0x110b9, 0x110b9, 9),
   (0x110ba, 0x110ba, 7), (0x11100, 0x11102, 230), (0x11133, 0x11134, 9), (0x11173, 0x11173, 7),
   (0x111c0, 0x111c0, 9), (0x111ca, 0x111ca, 7), (0x11235, 0x11235, 9), (0x11236, 0x11236, 7),
   (0x112e9, 0x112e9, 7), (0x112ea, 0x112ea, 9), (0x1133b, 0x1133c, 7), (0x1134d, 0x1134d, 9),
   (0x11366, 0x1136c, 230), (0x11370, 0x11374, 230), (0x11442, 0x11442, 9), (0x11446, 0x11446, 7),
   (0x1145e, 0x1145e, 230), (0x114c2, 0x114c2, 9), (0x114c3, 0x114c3, 7), (0x115bf, 0x115bf, 9),
   (0x115c0, 0x115c0, 7), (0x1163f, 0x1163f, 9), (0x116b6, 0x116b6, 9), (0x116b7, 0x116b7, 7),
   (0x1172b, 0x1172b, 9), (0x11839, 0x11839, 9), (0x1183a, 0x1183a, 7), (0x1193d, 0x1193e, 9),
   (0x11943, 0x11943, 7), (0x119e0, 0x119e0, 9), (0x11a34, 0x11a34, 9), (0x11a47, 0x11a47, 9),
   (0x11a99, 0x11a99, 9), (0x11c3f, 0x11c3f, 9), (0x11d42, 0x11d42, 7), (0x11d44, 0x11d45, 9),
   (0x11d97, 0x11d97, 9), (0x16af0, 0x16af4, 1), (0x16b30, 0x16b36, 230), (0x16ff0, 0x16ff1, 6),
   (0x1bc9e, 0x1bc9e, 1), (0x1d165, 0x1d166, 216), (0x1d167, 0x1d169, 1), (0x1d16d, 0x1d16d, 226),
   (0x1d16e, 0x1d172, 216), (0x1d17b, 0x1d182, 220), (0x1d185, 0x1d189, 230),
   (0x1d18a, 0x1d18b, 220), (0x1d1aa, 0x1d1ad, 230), (0x1d242, 0x1d244, 230),
   (0x1e000, 0x1e006, 230), (0x1e008, 0x1e018, 230), (0x1e01b, 0x1e021, 230),
   (0x1e023, 0x1e024, 230), (0x1e026, 0x1e02a, 230), (0x1e130, 0x1e136, 230),
   (0x1e2ae, 0x1e2ae, 230), (0x1e2ec, 0x1e2ef, 230), (0x1e8d0, 0x1e8d6, 220),
   (0x1e944, 0x1e949, 230), (0x1e94a, 0x1e94a, 7)]

end ProviderGen.Text
